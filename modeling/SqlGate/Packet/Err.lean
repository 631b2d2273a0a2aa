import SqlGate.Capability
import SqlGate.Wire.Cursor

/-!
# ERR packets

The answer to a request that failed: a code, an SQL state and a message.
-/

namespace SqlGate

set_option autoImplicit false

/-- The SQL state of an error that has no state of its own. -/
def generalSqlState : FixedBytes 5 := ⟨[0x48, 0x59, 0x30, 0x30, 0x30], rfl⟩

structure ErrPacket where
  header : UInt8 := 0xFF
  code : UInt16 := 0
  marker : Char := '#'
  sqlState : FixedBytes 5 := generalSqlState
  message : String := ""
deriving DecidableEq

namespace ErrPacket

instance : Inhabited ErrPacket := ⟨{}⟩

/-- The marker and the SQL state are sent to clients of the 4.1 protocol only.
The marker goes out as the low byte of its code point. -/
def encode (packet : ErrPacket) (capabilities : Capabilities) : Bytes :=
  packet.header :: Bytes.ofUInt16 packet.code
    ++ (if capabilities.has .protocol41 then
          UInt8.ofNat packet.marker.toNat :: packet.sqlState.toList
        else [])
    ++ Utf8.encode packet.message

def reader (capabilities : Capabilities) : Reader ErrPacket := do
  let header ← Reader.int1
  unless header = 0xFF do throw (.errHeader header)
  let code ← Reader.int2
  let (marker, sqlState) ←
    if capabilities.has .protocol41 then
      let marker ← Reader.int1
      pure (Char.ofNat marker.toNat, ← Reader.fixedBytes 5)
    else
      pure ('#', generalSqlState)
  let message ← Reader.textToEnd
  return { header, code, marker, sqlState, message }

def decode (payload : Bytes) (capabilities : Capabilities) : Except WireError ErrPacket :=
  (reader capabilities).runOn payload

end ErrPacket

end SqlGate
