import SqlGate.Text.Hex

/-!
# Malformed packets

What can be wrong with the bytes of a packet, and the sentence for each.
-/

namespace SqlGate

set_option autoImplicit false

/-- The kinds of field whose size is known before they are read. -/
inductive FieldKind where
  | integer (width : Nat)
  | reserved
  | fixedText
deriving DecidableEq, Repr

def FieldKind.name : FieldKind → String
  | integer width => s!"int<{width}>"
  | reserved => "reserved bytes"
  | fixedText => "fixed-length string"

inductive WireError where
  /-- Fewer bytes are left than a field needs. -/
  | short (field : FieldKind) (need available : Nat)
  /-- No zero byte ends the text. -/
  | unterminated
  /-- A length starts with the byte that is kept for error packets. -/
  | reservedMarker
  | unsupportedGreeting (version : UInt8)
  | oldProtocol
  | tlsNotOffered
  | switchHeader (header : UInt8)
  | okHeader (header : UInt8)
  | errHeader (header : UInt8)
  /-- A payload does not fit one frame. -/
  | oversized (length : Nat)
deriving DecidableEq, Repr

def WireError.message : WireError → String
  | short field need available =>
      s!"Not enough bytes for {field.name}: need {need}, have {available}"
  | unterminated => "Missing null terminator"
  | reservedMarker => "Invalid length-encoded int marker 0xFF"
  | unsupportedGreeting version => s!"Unsupported protocol version: {version.toNat}"
  | oldProtocol => "Client does not speak protocol 4.1"
  | tlsNotOffered => "SSL upgrade requested but TLS is not offered"
  | switchHeader header => s!"Invalid auth switch header: 0x{Hex.byteUpper header}"
  | okHeader header => s!"Invalid OK packet header: 0x{Hex.byteUpper header}"
  | errHeader header => s!"Invalid ERR packet header: 0x{Hex.byteUpper header}"
  | oversized length => s!"Payload of {length} bytes exceeds a single packet"

end SqlGate
