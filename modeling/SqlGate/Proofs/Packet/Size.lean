import SqlGate.ErrorCode
import SqlGate.Proofs.Text.Size
import SqlGate.ReplyStream

/-!
# How many bytes a packet takes

A refusal takes the bytes of its words and of the names that it repeats. The other
answers are short.
-/

namespace SqlGate

set_option autoImplicit false

theorem OkPacket.length_encode_default_le (capabilities : Capabilities) :
    (OkPacket.encode {} capabilities).length ≤ 7 := by
  cases speaks : capabilities.has .protocol41 with
  | false =>
      simp only [encode, speaks]
      decide
  | true =>
      simp only [encode, speaks]
      decide

theorem SwitchRequest.length_encode (request : SwitchRequest) :
    request.encode.length = request.plugin.utf8ByteSize + request.data.length + 3 := by
  simp only [encode, Field.zeroTerminated, List.length_append, List.length_cons,
    List.length_nil, Utf8.length_encode]
  omega

theorem ErrorCode.length_encode_packet
    (code : ErrorCode)
    (values : List String)
    {capabilities : Capabilities}
    (speaks : capabilities.has .protocol41 = true) :
    ((code.packet values).encode capabilities).length =
      9 + code.template.wordsSize + Template.valuesSize (values.take code.template.slots) := by
  have state := code.sqlState.length_toList
  simp only [packet, ErrPacket.encode, speaks, if_true, message, List.length_append,
    List.length_cons, Bytes.ofUInt16, Bytes.length_ofNatLE, Utf8.length_encode,
    Template.utf8ByteSize_fill, state]
  omega

end SqlGate
