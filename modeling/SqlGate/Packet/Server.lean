import SqlGate.Packet.Greeting
import SqlGate.Packet.Ok
import SqlGate.Packet.Err
import SqlGate.Packet.SwitchRequest
import SqlGate.Wire.Frame

/-!
# Packets of the server

The four packets that the server sends, and a packet with the sequence number
under which it goes out.
-/

namespace SqlGate

set_option autoImplicit false

inductive ServerPacket where
  | greeting (greeting : Greeting)
  | ok (packet : OkPacket)
  | err (packet : ErrPacket)
  | switchRequest (request : SwitchRequest)
deriving DecidableEq

namespace ServerPacket

def encode (capabilities : Capabilities) : ServerPacket → Bytes
  | greeting packet => packet.encode
  | ok packet => packet.encode capabilities
  | err packet => packet.encode capabilities
  | switchRequest request => request.encode

def isOk : ServerPacket → Bool
  | ok _ => true
  | _ => false

def errorNumber? : ServerPacket → Option UInt16
  | err packet => some packet.code
  | _ => none

end ServerPacket

structure Outbound where
  sequence : UInt8
  packet : ServerPacket
deriving DecidableEq

def Outbound.frame (outbound : Outbound) (capabilities : Capabilities) : Frame :=
  ⟨outbound.sequence, outbound.packet.encode capabilities⟩

end SqlGate
