import SqlGate.Wire.Cursor
import SqlGate.Wire.Field

/-!
# Switch requests

The server asks the client to log in with another plugin. The client's answer
is a packet that holds nothing but the response.
-/

namespace SqlGate

set_option autoImplicit false

structure SwitchRequest where
  header : UInt8 := 0xFE
  plugin : String := ""
  data : Bytes := []
deriving DecidableEq, Repr, Inhabited

namespace SwitchRequest

def encode (request : SwitchRequest) : Bytes :=
  request.header :: Field.zeroTerminated (Utf8.encode request.plugin)
    ++ Field.zeroTerminated request.data

/-- One zero byte at the end belongs to the form and not to the data. -/
def reader : Reader SwitchRequest := do
  let header ← Reader.int1
  unless header = 0xFE do throw (.switchHeader header)
  let plugin ← Reader.textUntilZero
  let data ← Reader.toEnd
  return { header, plugin, data := Bytes.dropFinalZero data }

def decode (payload : Bytes) : Except WireError SwitchRequest := reader.runOn payload

end SwitchRequest

end SqlGate
