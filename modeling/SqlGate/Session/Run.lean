import SqlGate.Session.State
import SqlGate.Text.Duration

/-!
# Running a session

After every event the server answers all complete packets, one by one, until
it has to wait or the session ends. `handle` is the step for one event, and
`start` the session that has just greeted its client.
-/

namespace SqlGate.Session

set_option autoImplicit false

/-- A packet that does not fit a frame ends the session. -/
def write (session : Session) : List Outbound → Session
  | [] => session
  | outbound :: rest =>
      let frame := outbound.frame session.exchange.handshake.capabilities
      match frame.encode with
      | .ok _ => write { session with written := session.written.push frame } rest
      | .error problem => session.finish (.error (.ofWire problem))

def writeThen (session : Session) (outbound : List Outbound) (next : Session → Session) :
    Session :=
  let session := session.write outbound
  if session.isEnded then session else next session

/-- A packet at the wrong time is answered with an error and ends the session. -/
def answerLogin (session : Session) (services : Services) (frame : Frame) : Session :=
  match (Handshake.receive services frame.sequence frame.payload).run
      { session.exchange with sent := [] } with
  | .ok outcome exchange =>
      { session with exchange }.writeThen exchange.sent fun session =>
        match outcome with
        | .switchRequested => session
        | .authenticated => { session with stage := .commands }
        | .rejected _ => session.finish (.ok ())
  | .error violation exchange =>
      let reply := (ReplyStream.replyTo {} frame.sequence).error .badHandshake []
      { session with exchange }.writeThen [reply.1] (·.finish (.error (.ofViolation violation)))

def answerCommand (session : Session) (services : Services) (frame : Frame) : Session :=
  let response := Command.respond services session.settings.host frame.sequence frame.payload
    session.exchange.backend
  { session with
    answered := session.answered + 1
    exchange := { session.exchange with backend := response.backend } }.writeThen
      response.reply.toList fun session =>
        match response.action with
        | .goOn => session
        | .close => session.finish (.ok ())

/-- An answered frame leaves the bytes behind it. -/
inductive Move where
  | answerLogin (frame : Frame) (rest : Bytes)
  | answerCommand (frame : Frame) (rest : Bytes)
  | finish (result : Except Fault Unit)
  | wait

/-- A complete packet comes before the end of the stream, and the end of the
stream before the time limit. Only a session that serves commands stops, and
it counts the end of the stream as a farewell. -/
def nextMove (session : Session) : Move :=
  match session.stage with
  | .ended _ => .wait
  | .login =>
      match Frame.read? session.unread with
      | some (frame, rest) => .answerLogin frame rest
      | none =>
          if session.inputEnded then .finish (.error .streamEnded)
          else if session.isOverdue then
            .finish (.error (.timeout
              ("Handshake not completed within "
                ++ Duration.text session.settings.handshakeMillis)))
          else .wait
  | .commands =>
      if session.stopping && session.settings.stopsFirst session.answered then .finish (.ok ())
      else
        match Frame.read? session.unread with
        | some (frame, rest) => .answerCommand frame rest
        | none => if session.inputEnded || session.stopping then .finish (.ok ()) else .wait

theorem unread_write (session : Session) (outbound : List Outbound) :
    (session.write outbound).unread = session.unread := by
  induction outbound generalizing session with
  | nil => rfl
  | cons first rest ih =>
      simp only [write]
      split
      · rw [ih]
      · rfl

theorem unread_writeThen
    (session : Session)
    (outbound : List Outbound)
    (next : Session → Session)
    (keeps : ∀ later, (next later).unread = later.unread) :
    (session.writeThen outbound next).unread = session.unread := by
  simp only [writeThen]
  split <;> simp [keeps, unread_write]

theorem unread_answerLogin (session : Session) (services : Services) (frame : Frame) :
    (session.answerLogin services frame).unread = session.unread := by
  simp only [answerLogin]
  split
  · rw [unread_writeThen]
    intro later
    split <;> rfl
  · rw [unread_writeThen]
    intro later
    rfl

theorem unread_answerCommand (session : Session) (services : Services) (frame : Frame) :
    (session.answerCommand services frame).unread = session.unread := by
  simp only [answerCommand]
  rw [unread_writeThen]
  intro later
  split <;> rfl

/-- A session that answers has a complete packet to answer. -/
theorem read?_of_nextMove
    {session : Session}
    {frame : Frame}
    {rest : Bytes}
    (moves : session.nextMove = .answerLogin frame rest
      ∨ session.nextMove = .answerCommand frame rest) :
    Frame.read? session.unread = some (frame, rest) := by
  unfold nextMove at moves
  split at moves
  · simp at moves
  · split at moves
    · rename_i found
      simpa [found] using moves
    · split at moves
      · simp at moves
      · split at moves <;> simp at moves
  · split at moves
    · simp at moves
    · split at moves
      · rename_i found
        simpa [found] using moves
      · split at moves <;> simp at moves

def run (services : Services) (session : Session) : Session :=
  match _move : session.nextMove with
  | .wait => session
  | .finish result => session.finish result
  | .answerLogin frame rest =>
      run services ({ session with unread := rest }.answerLogin services frame)
  | .answerCommand frame rest =>
      run services ({ session with unread := rest }.answerCommand services frame)
termination_by session.unread.length
decreasing_by
  · rw [unread_answerLogin]
    exact Frame.read?_length_lt (read?_of_nextMove (.inl _move))
  · rw [unread_answerCommand]
    exact Frame.read?_length_lt (read?_of_nextMove (.inr _move))

/-- The services are those of the moment; a reload gives later events others.
Nothing happens after the end. -/
def handle (services : Services) (session : Session) (event : Event) : Session :=
  if session.isEnded then session else run services (session.absorb event)

/-- The numbers left for later sessions come back with the session. -/
def start (settings : Settings) (ids : ConnectionIds) (scramble : Scramble) :
    Session × ConnectionIds :=
  let fresh : Exchange :=
    { ids
      handshake :=
        { replies := { serverVersion := settings.serverVersion }, host := settings.host } }
  match (Handshake.greet scramble).run fresh with
  | .ok _ exchange => (write { settings, exchange } exchange.sent, exchange.ids)
  | .error violation exchange =>
      (finish { settings, exchange } (.error (.ofViolation violation)), exchange.ids)

def result? (session : Session) : Option (Except Fault Unit) :=
  match session.stage with
  | .ended result => some result
  | _ => none

end SqlGate.Session
