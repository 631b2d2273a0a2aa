import SqlGate.Backend
import SqlGate.ConnectionId
import SqlGate.Handshake.Phase
import SqlGate.Packet.Login
import SqlGate.Policy
import SqlGate.ReplyStream

/-!
# State of a handshake

What the server keeps while a client logs in: the challenge that its greeting
put to the client, what the client asked for, and the phase.
-/

namespace SqlGate

set_option autoImplicit false

/-- The scramble serves every response, also that to a switch request. -/
structure Challenge where
  connectionId : UInt32
  scramble : Scramble
  /-- What the client can do, or what the server offers until the client said
  so. -/
  capabilities : Capabilities := .serverDefault
deriving DecidableEq

/-- The answer to a switch request replaces the response and nothing else. -/
structure LoginAttempt where
  username : String := ""
  database : Option String := none
  authResponse : Bytes := []
  plugin : Option String := none
deriving DecidableEq, Repr, Inhabited

namespace LoginAttempt

def ofPacket (packet : LoginPacket) : LoginAttempt where
  username := packet.username
  database := packet.database
  authResponse := packet.authResponse
  plugin := packet.plugin

def usingPassword (attempt : LoginAttempt) : String :=
  if attempt.authResponse.isEmpty then "NO" else "YES"

end LoginAttempt

structure Handshake where
  replies : ReplyStream := {}
  /-- The client's host, named in refusals. -/
  host : String := "localhost"
  phase : Handshake.Phase := .initial
  challenge : Option Challenge := none
  attempt : Option LoginAttempt := none
  /-- The last response that the client sent. -/
  authResponse : Bytes := []
deriving Inhabited

namespace Handshake

/-- What packets to the client are laid out for. -/
def capabilities (handshake : Handshake) : Capabilities :=
  match handshake.challenge with
  | some challenge => challenge.capabilities
  | none => .serverDefault

def connectionId (handshake : Handshake) : Option UInt32 :=
  handshake.challenge.map (·.connectionId)

/-- A handshake that goes on from a challenge put earlier. -/
def resume (handshake : Handshake) (challenge : Challenge) (phase : Phase) : Handshake :=
  { handshake with challenge := some challenge, phase }

def resumeAttempt (handshake : Handshake) (attempt : LoginAttempt) : Handshake :=
  { handshake with attempt := some attempt, authResponse := attempt.authResponse }

inductive Outcome where
  /-- A switch was requested and another packet is expected. -/
  | switchRequested
  | authenticated
  | rejected (code : ErrorCode)
deriving DecidableEq, Repr

def Outcome.isTerminal : Outcome → Bool
  | switchRequested => false
  | _ => true

end Handshake

end SqlGate
