import SqlGate.Config.Basic
import SqlGate.Config.Problem

/-!
# Decoding of configurations

The names that the parts of a configuration have in a document. Fields that are
left out take their defaults; fields of other names are skipped.
-/

namespace SqlGate.Config

set_option autoImplicit false

open Yaml Yaml.Decode

/-! ## Servers -/

structure ServerFields where
  listenAddress : Option String := none
  listenPort : Option UInt16 := none
  serverVersion : Option String := none
  handshakeTimeoutSecs : Option UInt64 := none
  maxConnections : Option UInt64 := none

def serverField (fields : ServerFields) (field : Field) : Decode ServerFields := do
  match field.name with
  | "listen_address" =>
      return { fields with listenAddress := ← field.once fields.listenAddress string }
  | "listen_port" =>
      return { fields with listenPort := ← field.once fields.listenPort (number16 "u16") }
  | "server_version" =>
      return { fields with serverVersion := ← field.once fields.serverVersion string }
  | "handshake_timeout_secs" =>
      return {
        fields with
        handshakeTimeoutSecs := ← field.once fields.handshakeTimeoutSecs (number64 "u64") }
  | "max_connections" =>
      return { fields with maxConnections := ← field.once fields.maxConnections (number64 "usize") }
  | _ => return fields

def serverDecoder : Decoder Server := fun path node => do
  let fields ← record "struct ServerConfig" serverField {} path node
  let plain : Server := { listenPort := ← needed path "listen_port" fields.listenPort }
  return {
    listenAddress := fields.listenAddress.getD plain.listenAddress
    listenPort := plain.listenPort
    serverVersion := fields.serverVersion.getD plain.serverVersion
    handshakeTimeoutSecs := fields.handshakeTimeoutSecs.getD plain.handshakeTimeoutSecs
    maxConnections := fields.maxConnections.getD plain.maxConnections }

/-! ## Users -/

structure UserFields where
  username : Option String := none
  password : Option String := none
  grants : Option (List String) := none

def userField (fields : UserFields) (field : Field) : Decode UserFields := do
  match field.name with
  | "username" => return { fields with username := ← field.once fields.username string }
  | "password" => return { fields with password := ← field.once fields.password string }
  | "authorized_schemas" =>
      return { fields with grants := ← field.once fields.grants (sequence string) }
  | _ => return fields

def userDecoder : Decoder Account := fun path node => do
  let fields ← record "struct UserConfig" userField {} path node
  return {
    username := ← needed path "username" fields.username
    password := fields.password.getD ""
    grants := fields.grants.getD [] }

/-! ## Schemas -/

def schemaField (known : Option (List String)) (field : Field) : Decode (Option (List String)) :=
  match field.name with
  | "data_sources" => field.once known (sequence string)
  | _ => return known

def schemaDecoder : Decoder (List String) := fun path node => do
  return (← record "struct SchemaConfig" schemaField none path node).getD []

/-- The last of several schemas with one name counts. -/
def schemasDecoder : Decoder (Std.TreeMap String (List String)) :=
  eachField "a map" "a string"
    (fun schemas field => return schemas.insert field.name (← field.decode schemaDecoder)) ∅

/-! ## Logging -/

structure LoggingFields where
  level : Option String := none
  protocolDebug : Option Bool := none

def loggingField (fields : LoggingFields) (field : Field) : Decode LoggingFields := do
  match field.name with
  | "level" => return { fields with level := ← field.once fields.level string }
  | "protocol_debug" =>
      return { fields with protocolDebug := ← field.once fields.protocolDebug boolean }
  | _ => return fields

def loggingDecoder : Decoder Logging := fun path node => do
  let fields ← record "struct LoggingConfig" loggingField {} path node
  let plain : Logging := {}
  return {
    level := fields.level.getD plain.level
    protocolDebug := fields.protocolDebug.getD plain.protocolDebug }

/-! ## The whole -/

structure Fields where
  server : Option Server := none
  users : Option (List Account) := none
  schemas : Option (Std.TreeMap String (List String)) := none
  logging : Option Logging := none

def configField (fields : Fields) (field : Field) : Decode Fields := do
  match field.name with
  | "server" => return { fields with server := ← field.once fields.server serverDecoder }
  | "users" => return { fields with users := ← field.once fields.users (sequence userDecoder) }
  | "schemas" => return { fields with schemas := ← field.once fields.schemas schemasDecoder }
  | "logging" => return { fields with logging := ← field.once fields.logging loggingDecoder }
  | _ => return fields

def decoder : Decoder Config := fun path node => do
  let fields ← record "struct Config" configField {} path node
  return {
    server := ← needed path "server" fields.server
    users := fields.users.getD []
    schemas := fields.schemas.getD ∅
    logging := fields.logging.getD {} }

def decode (text : String) : Except Problem Config := do
  let some document := Document.ofText? text | throw .malformed
  match document.decode decoder with
  | .ok config => return config
  | .error error => throw (.undecodable error)

end SqlGate.Config
