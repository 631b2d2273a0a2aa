import SqlGate.ErrorCode
import SqlGate.Packet.Server

/-!
# Reply streams

Packets to a client are numbered. A greeting starts at zero, an answer follows
the packet it answers, and further packets count on from there, modulo 256.
-/

namespace SqlGate

set_option autoImplicit false

structure ReplyStream where
  serverVersion : String := defaultServerVersion
  nextSequence : UInt8 := 0
deriving DecidableEq, Repr, Inhabited

namespace ReplyStream

def replyTo (stream : ReplyStream) (inbound : UInt8) : ReplyStream :=
  { stream with nextSequence := inbound + 1 }

def emit (stream : ReplyStream) (packet : ServerPacket) : Outbound × ReplyStream :=
  (⟨stream.nextSequence, packet⟩, { stream with nextSequence := stream.nextSequence + 1 })

def greeting
    (stream : ReplyStream)
    (connectionId : UInt32)
    (scramble : Scramble)
    (capabilities : Capabilities) :
    Outbound × ReplyStream :=
  { stream with nextSequence := 0 }.emit <| .greeting
    { Greeting.ofScramble stream.serverVersion connectionId scramble with capabilities }

def ok (stream : ReplyStream) : Outbound × ReplyStream := stream.emit (.ok {})

def error (stream : ReplyStream) (code : ErrorCode) (values : List String) :
    Outbound × ReplyStream :=
  stream.emit (.err (code.packet values))

def switchRequest (stream : ReplyStream) (plugin : String) (scramble : Scramble) :
    Outbound × ReplyStream :=
  stream.emit (.switchRequest { plugin, data := scramble.toList })

end ReplyStream

end SqlGate
