import SqlGate.Capability
import SqlGate.Wire.Cursor
import SqlGate.Wire.Field

/-!
# Greetings

The server's first packet. It names the server's version, the connection and
the random bytes, the scramble, against which the client proves its password.
The scramble travels in two parts, eight bytes and the rest.
-/

namespace SqlGate

set_option autoImplicit false

abbrev Scramble := FixedBytes 20

def nativePasswordPlugin : String := "mysql_native_password"

def defaultServerVersion : String := "5.7.40-dbproxy"

/-- The number of the general UTF-8 collation. -/
def defaultCharset : UInt8 := 0x21

structure Greeting where
  protocolVersion : UInt8 := 10
  serverVersion : String := defaultServerVersion
  connectionId : UInt32 := 1
  firstPart : FixedBytes 8 := FixedBytes.zero 8
  capabilities : Capabilities := .serverDefault
  charset : UInt8 := defaultCharset
  status : UInt16 := 2
  dataLength : UInt8 := 21
  secondPart : Bytes := List.replicate 12 0
  plugin : String := nativePasswordPlugin
deriving DecidableEq

namespace Greeting

instance : Inhabited Greeting := ⟨{}⟩

def ofScramble (serverVersion : String) (connectionId : UInt32) (scramble : Scramble) :
    Greeting where
  serverVersion := serverVersion
  connectionId := connectionId
  firstPart := ⟨scramble.toList.take 8, by simp [scramble.length_toList]⟩
  secondPart := scramble.toList.drop 8

/-- The first part and at most twelve bytes of the second. -/
def scramble (greeting : Greeting) : Bytes :=
  greeting.firstPart.toList ++ greeting.secondPart.take 12

theorem scramble_ofScramble
    (serverVersion : String)
    (connectionId : UInt32)
    (scramble : Scramble) :
    (ofScramble serverVersion connectionId scramble).scramble = scramble.toList := by
  have short : (scramble.toList.drop 8).length ≤ 12 := by
    simp [scramble.length_toList]
  simp [ofScramble, Greeting.scramble, List.take_of_length_le short]

/-- Both parts and the plugin's name are written whatever the flags say. -/
def encode (greeting : Greeting) : Bytes :=
  greeting.protocolVersion :: Field.zeroTerminated (Utf8.encode greeting.serverVersion)
    ++ Bytes.ofUInt32 greeting.connectionId
    ++ greeting.firstPart.toList
    ++ [0]
    ++ Bytes.ofUInt16 greeting.capabilities.lower
    ++ [greeting.charset]
    ++ Bytes.ofUInt16 greeting.status
    ++ Bytes.ofUInt16 greeting.capabilities.upper
    ++ [greeting.dataLength]
    ++ List.replicate 10 0
    ++ Field.zeroTerminated greeting.secondPart
    ++ Field.zeroTerminated (Utf8.encode greeting.plugin)

/-- The second part takes at least thirteen bytes, its final zero included. -/
def secondPartLength (dataLength : UInt8) : Nat := max 13 (dataLength.toNat - 8)

def secondPartReader (dataLength : UInt8) : Reader Bytes := do
  let available := (← get).remaining
  let bytes ← Reader.fixed (min (secondPartLength dataLength) available)
  return Bytes.dropFinalZero bytes

/-- The second part is read if the flags announce secure connections, and the
plugin's name if they announce plugins and any byte is left. -/
def reader : Reader Greeting := do
  let protocolVersion ← Reader.int1
  unless protocolVersion = 10 do throw (.unsupportedGreeting protocolVersion)
  let serverVersion ← Reader.textUntilZero
  let connectionId ← Reader.int4
  let firstPart ← Reader.fixedBytes 8
  Reader.skip 1
  let lower ← Reader.int2
  let charset ← Reader.int1
  let status ← Reader.int2
  let upper ← Reader.int2
  let capabilities := Capabilities.ofHalves lower upper
  let dataLength ← Reader.int1
  Reader.skip 10
  let secondPart ←
    if capabilities.has .secureConnection then secondPartReader dataLength else pure []
  let plugin ←
    if capabilities.has .pluginAuth && (← Reader.more) then Reader.textUntilZero else pure ""
  return { protocolVersion, serverVersion, connectionId, firstPart, capabilities, charset,
           status, dataLength, secondPart, plugin }

def decode (payload : Bytes) : Except WireError Greeting := reader.runOn payload

end Greeting

end SqlGate
