import SqlGate.Config.Decoding
import SqlGate.Config.Environment
import SqlGate.Fault

/-!
# Loading

A configuration is decoded, its references to variables are resolved, and
variables of the gate itself replace some of its settings. It is accepted if what
comes out is consistent.
-/

namespace SqlGate.Config

set_option autoImplicit false

/-! ## References -/

/-- A password that starts like a reference in braces must not stay as it is
written: the variable has to be set. -/
def resolvePassword (environment : Environment) (username password : String) :
    Except Problem String :=
  match reference? password with
  | some name =>
      if startsBraced password then
        match environment name with
        | some value => .ok value
        | none => .error (.unsetPassword username name)
      else .ok (environment.expand password)
  | none => .ok password

def resolveUser (environment : Environment) (user : Account) : Except Problem Account := do
  let username := environment.expand user.username
  return { user with
    username
    password := ← resolvePassword environment username user.password }

def resolve (environment : Environment) (config : Config) : Except Problem Config := do
  let users ← config.users.mapM (resolveUser environment)
  return { config with
    users
    server := { config.server with
      listenAddress := environment.expand config.server.listenAddress } }

/-! ## Overrides -/

def numberIn? (environment : Environment) (name : String) (limit : Nat) : Option Nat :=
  (environment name).bind (Numeral.below? limit)

/-- Settings that the gate's own variables replace. Numbers that cannot be read
are ignored. -/
def override (environment : Environment) (config : Config) : Config where
  server :=
    { listenAddress := (environment "DBPROXY_LISTEN_ADDRESS").getD config.server.listenAddress
      listenPort :=
        ((numberIn? environment "DBPROXY_LISTEN_PORT" UInt16.size).map UInt16.ofNat).getD
          config.server.listenPort
      serverVersion := config.server.serverVersion
      handshakeTimeoutSecs :=
        ((numberIn? environment "DBPROXY_HANDSHAKE_TIMEOUT_SECS" UInt64.size).map
          UInt64.ofNat).getD config.server.handshakeTimeoutSecs
      maxConnections :=
        ((numberIn? environment "DBPROXY_MAX_CONNECTIONS" UInt64.size).map UInt64.ofNat).getD
          config.server.maxConnections }
  users := config.users
  schemas := config.schemas
  logging :=
    { level := (environment "DBPROXY_LOG_LEVEL").getD config.logging.level
      protocolDebug := config.logging.protocolDebug }

/-! ## Consistency -/

def checkUser (schemas : Std.TreeMap String (List String)) (earlier : List String)
    (user : Account) : Except Problem Unit :=
  if user.username.isEmpty then .error .emptyUsername
  else if earlier.contains user.username then .error (.duplicateUser user.username)
  else
    match user.grants.find? (!schemas.contains ·) with
    | some schema => .error (.unknownSchema user.username schema)
    | none => .ok ()

def checkUsers (schemas : Std.TreeMap String (List String)) (earlier : List String) :
    List Account → Except Problem Unit
  | [] => .ok ()
  | user :: later => do
      checkUser schemas earlier user
      checkUsers schemas (user.username :: earlier) later

def validate (config : Config) : Except Problem Unit := do
  if config.users.isEmpty then throw .noUsers
  checkUsers config.schemas [] config.users
  if config.schemas.contains "" then throw .emptySchemaName

/-! ## The whole -/

def finish (environment : Environment) (config : Config) : Except Problem Config := do
  let resolved ← config.resolve environment
  let final := resolved.override environment
  final.validate
  return final

def ofText (environment : Environment) (text : String) : Except Problem Config := do
  finish environment (← decode text)

def ofBytes (environment : Environment) (bytes : Bytes) : Except Fault Config :=
  match Utf8.decode? bytes with
  | none => .error .notText
  | some text => (ofText environment text).mapError fun problem => .configuration problem.message

end SqlGate.Config
