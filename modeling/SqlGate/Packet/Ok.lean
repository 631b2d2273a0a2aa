import SqlGate.Capability
import SqlGate.Wire.Cursor
import SqlGate.Wire.Field

/-!
# OK packets

The answer to a request that succeeded.
-/

namespace SqlGate

set_option autoImplicit false

def autocommitStatus : UInt16 := 2

structure OkPacket where
  header : UInt8 := 0x00
  affectedRows : UInt64 := 0
  lastInsertId : UInt64 := 0
  status : UInt16 := autocommitStatus
  warnings : UInt16 := 0
  info : String := ""
deriving DecidableEq, Repr, Inhabited

namespace OkPacket

/-- Status and warnings are sent to clients of the 4.1 protocol only. -/
def encode (packet : OkPacket) (capabilities : Capabilities) : Bytes :=
  packet.header :: Field.lengthEncoded packet.affectedRows
    ++ Field.lengthEncoded packet.lastInsertId
    ++ (if capabilities.has .protocol41 then
          Bytes.ofUInt16 packet.status ++ Bytes.ofUInt16 packet.warnings
        else [])
    ++ Utf8.encode packet.info

def reader (capabilities : Capabilities) : Reader OkPacket := do
  let header ← Reader.int1
  unless header = 0x00 || header = 0xFE do throw (.okHeader header)
  let affectedRows ← Reader.lengthEncoded
  let lastInsertId ← Reader.lengthEncoded
  let (status, warnings) ←
    if capabilities.has .protocol41 then
      pure (← Reader.int2, ← Reader.int2)
    else
      pure (0, 0)
  let info ← Reader.textToEnd
  return { header, affectedRows, lastInsertId, status, warnings, info }

def decode (payload : Bytes) (capabilities : Capabilities) : Except WireError OkPacket :=
  (reader capabilities).runOn payload

end OkPacket

end SqlGate
