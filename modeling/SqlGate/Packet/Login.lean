import SqlGate.Packet.Greeting

/-!
# Login packets

The client's answer to the greeting: who logs in, the response to the
scramble, and on request a database and the plugin that made the response. Its
flags decide how the response is written and which fields are present.
-/

namespace SqlGate

set_option autoImplicit false

structure LoginPacket where
  capabilities : Capabilities := .none
  maxPacketSize : UInt32 := 0xFFFFFF
  charset : UInt8 := defaultCharset
  username : String := ""
  authResponse : Bytes := []
  database : Option String := none
  plugin : Option String := none
deriving DecidableEq, Repr, Inhabited

namespace LoginPacket

/-- How the flags say that the response is delimited. -/
inductive ResponseForm where
  | lengthEncoded
  | oneByteLength
  | zeroTerminated
deriving DecidableEq, Repr

def ResponseForm.of (capabilities : Capabilities) : ResponseForm :=
  if capabilities.has .lengthEncodedAuth then lengthEncoded
  else if capabilities.has .secureConnection then oneByteLength
  else zeroTerminated

/-- A one-byte length is the length modulo 256. -/
def ResponseForm.encode (response : Bytes) : ResponseForm → Bytes
  | lengthEncoded => Field.lengthPrefixed response
  | oneByteLength => UInt8.ofNat response.length :: response
  | zeroTerminated => Field.zeroTerminated response

def ResponseForm.reader : ResponseForm → Reader Bytes
  | lengthEncoded => Reader.lengthPrefixed
  | oneByteLength => do Reader.fixed (← Reader.int1).toNat
  | zeroTerminated => Reader.untilZero

def encode (login : LoginPacket) : Bytes :=
  Bytes.ofUInt32 login.capabilities.bits
    ++ Bytes.ofUInt32 login.maxPacketSize
    ++ login.charset :: List.replicate 23 0
    ++ Field.zeroTerminated (Utf8.encode login.username)
    ++ (ResponseForm.of login.capabilities).encode login.authResponse
    ++ (if login.capabilities.has .connectWithDb then
          Field.zeroTerminated (Utf8.encode (login.database.getD ""))
        else [])
    ++ (match login.plugin with
        | some name =>
            if login.capabilities.has .pluginAuth then Field.zeroTerminated (Utf8.encode name)
            else []
        | none => [])

/-- An empty name asks for no database. -/
def databaseOfName (name : String) : Option String :=
  if name.isEmpty then none else some name

/-- A packet that stops behind its fixed part asks for TLS. Fields that the
packet is too short for count as absent, and bytes after the plugin's name are
ignored. -/
def reader : Reader LoginPacket := do
  let capabilities := Capabilities.mk (← Reader.int4)
  unless capabilities.has .protocol41 do throw .oldProtocol
  let maxPacketSize ← Reader.int4
  let charset ← Reader.int1
  Reader.skip 23
  if capabilities.has .ssl && !(← Reader.more) then throw .tlsNotOffered
  let username ← Reader.textUntilZero
  let authResponse ← (ResponseForm.of capabilities).reader
  let database ←
    if capabilities.has .connectWithDb && (← Reader.more) then
      pure (databaseOfName (← Reader.textUntilZero))
    else pure none
  let plugin ←
    if capabilities.has .pluginAuth && (← Reader.more) then
      pure (some (← Reader.textUntilZero))
    else pure none
  return { capabilities, maxPacketSize, charset, username, authResponse, database, plugin }

def decode (payload : Bytes) : Except WireError LoginPacket := reader.runOn payload

end LoginPacket

end SqlGate
