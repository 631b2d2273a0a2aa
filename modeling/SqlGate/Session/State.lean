import SqlGate.Command
import SqlGate.Fault
import SqlGate.Handshake.Step

/-!
# Sessions

A session is one client connection from its greeting to its end. It is driven
by events: bytes that arrive, the end of the client's stream, time that
passes, and the server's wish to stop.
-/

namespace SqlGate

set_option autoImplicit false

namespace Session

structure Settings where
  host : String := "127.0.0.1"
  serverVersion : String := defaultServerVersion
  /-- How long the handshake may take; zero sets no limit. -/
  handshakeMillis : Nat := 0
  /-- When the server is to stop and a command waits too, either may come
  first; this picks, by the number of commands answered before. -/
  stopsFirst : Nat → Bool := fun _ => true

inductive Stage where
  | login
  | commands
  | ended (result : Except Fault Unit)

inductive Event where
  | bytes (chunk : Bytes)
  /-- The client closes its side of the stream. -/
  | inputEnd
  | elapse (millis : Nat)
  | stop

end Session

structure Session where
  settings : Session.Settings
  stage : Session.Stage := .login
  exchange : Exchange := {}
  /-- Bytes that arrived and belong to no answered packet. -/
  unread : Bytes := []
  inputEnded : Bool := false
  /-- Milliseconds since the session began. -/
  clock : Nat := 0
  stopping : Bool := false
  answered : Nat := 0
  /-- The frames sent to the client, oldest first. -/
  written : Array Frame := #[]

namespace Session

def isEnded (session : Session) : Bool :=
  match session.stage with
  | .ended _ => true
  | _ => false

def isOverdue (session : Session) : Bool :=
  session.settings.handshakeMillis != 0
    && session.settings.handshakeMillis ≤ session.clock

def finish (session : Session) (result : Except Fault Unit) : Session :=
  { session with stage := .ended result }

/-- What comes after the end of the client's stream is lost. -/
def absorb (session : Session) : Event → Session
  | .bytes chunk =>
      if session.inputEnded then session else { session with unread := session.unread ++ chunk }
  | .inputEnd => { session with inputEnded := true }
  | .elapse millis => { session with clock := session.clock + millis }
  | .stop => { session with stopping := true }

end Session

end SqlGate
