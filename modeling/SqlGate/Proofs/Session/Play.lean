import SqlGate.Proofs.Wire.Frames
import SqlGate.Session.Run

/-!
# What a session makes of its frames

`play` answers frames one by one and knows nothing of streams. A session that is
fed bytes in any pieces plays the complete frames of all of them, and reads none
once it has ended.
-/

namespace SqlGate.Session

set_option autoImplicit false

/-- The part of a session that its answers neither read nor change. -/
structure Transport where
  unread : Bytes := []
  inputEnded : Bool := false
  clock : Nat := 0
  stopping : Bool := false

def transport (session : Session) : Transport where
  unread := session.unread
  inputEnded := session.inputEnded
  clock := session.clock
  stopping := session.stopping

def carrying (session : Session) (transport : Transport) : Session :=
  { session with
    unread := transport.unread
    inputEnded := transport.inputEnded
    clock := transport.clock
    stopping := transport.stopping }

def placed (session : Session) (settings : Settings) (transport : Transport) : Session :=
  { session.carrying transport with settings }

def answer (services : Services) (session : Session) (frame : Frame) : Session :=
  match session.stage with
  | .login => session.answerLogin services frame
  | .commands => session.answerCommand services frame
  | .ended _ => session

def play (services : Services) (session : Session) (frames : List Frame) : Session :=
  frames.foldl (answer services) session

def heard (services : Services) (session : Session) : List Frame → Nat
  | [] => 0
  | frame :: rest =>
      if session.isEnded then 0 else heard services (session.answer services frame) rest + 1

/-- The client has closed its side, and no complete frame is left. -/
def close (session : Session) : Session :=
  match session.stage with
  | .login => session.finish (.error .streamEnded)
  | .commands => session.finish (.ok ())
  | .ended _ => session

theorem carrying_carrying (session : Session) (first second : Transport) :
    (session.carrying first).carrying second = session.carrying second := rfl

section Placed

variable (services : Services)
variable (session : Session)
variable (settings : Settings)
variable (other : Transport)

theorem write_placed (outbound : List Outbound) :
    (session.placed settings other).write outbound =
      (session.write outbound).placed settings other := by
  induction outbound generalizing session with
  | nil => rfl
  | cons first rest ih =>
      have same : (session.placed settings other).exchange = session.exchange := rfl
      let frame := first.frame session.exchange.handshake.capabilities
      rw [write, write, same]
      split
      · exact ih { session with written := session.written.push frame }
      · rfl

theorem writeThen_placed
    (outbound : List Outbound)
    (next : Session → Session)
    (keeps : ∀ later : Session,
      next (later.placed settings other) = (next later).placed settings other) :
    (session.placed settings other).writeThen outbound next =
      (session.writeThen outbound next).placed settings other := by
  have same : ((session.write outbound).placed settings other).isEnded =
      (session.write outbound).isEnded := rfl
  simp only [writeThen, write_placed, same]
  split
  · rfl
  · exact keeps _

theorem answerLogin_placed (frame : Frame) :
    (session.placed settings other).answerLogin services frame =
      (session.answerLogin services frame).placed settings other := by
  have same : (session.placed settings other).exchange = session.exchange := rfl
  rw [answerLogin, answerLogin, same]
  split
  · rename_i outcome exchange judged
    apply writeThen_placed { session with exchange }
    intro later
    split <;> rfl
  · rename_i violation exchange judged
    apply writeThen_placed { session with exchange }
    intro later
    rfl

theorem answerCommand_placed (host : settings.host = session.settings.host) (frame : Frame) :
    (session.placed settings other).answerCommand services frame =
      (session.answerCommand services frame).placed settings other := by
  let response := Command.respond services session.settings.host frame.sequence frame.payload
    session.exchange.backend
  let responded : Session :=
    { session with
      answered := session.answered + 1
      exchange := { session.exchange with backend := response.backend } }
  have same : Command.respond services (session.placed settings other).settings.host
      frame.sequence frame.payload (session.placed settings other).exchange.backend = response :=
    congrArg (Command.respond services · frame.sequence frame.payload session.exchange.backend) host
  rw [answerCommand, answerCommand, same]
  apply writeThen_placed responded settings other response.reply.toList
  intro later
  split <;> rfl

/-- Of the settings an answer reads nothing but the host, and of the transport nothing. -/
theorem answer_placed (host : settings.host = session.settings.host) (frame : Frame) :
    (session.placed settings other).answer services frame =
      (session.answer services frame).placed settings other := by
  have same : (session.placed settings other).stage = session.stage := rfl
  rw [answer, answer, same]
  split
  · exact answerLogin_placed services session settings other frame
  · exact answerCommand_placed services session settings other host frame
  · rfl

theorem settings_answer (frame : Frame) :
    (session.answer services frame).settings = session.settings := by
  have same := answer_placed services session session.settings session.transport rfl frame
  have unchanged : session.placed session.settings session.transport = session := rfl
  rw [unchanged] at same
  rw [same]
  rfl

end Placed

section Carrying

variable (services : Services)
variable (session : Session)
variable (other : Transport)

theorem answer_carrying (frame : Frame) :
    (session.carrying other).answer services frame =
      (session.answer services frame).carrying other := by
  have same := answer_placed services session session.settings other rfl frame
  have settled := settings_answer services session frame
  calc
    (session.carrying other).answer services frame
    _ = (session.answer services frame).placed session.settings other := same
    _ = (session.answer services frame).placed (session.answer services frame).settings other := by
        rw [settled]
    _ = (session.answer services frame).carrying other := rfl

theorem play_carrying (frames : List Frame) :
    play services (session.carrying other) frames =
      (play services session frames).carrying other := by
  induction frames generalizing session with
  | nil => rfl
  | cons frame rest ih =>
      rw [play, List.foldl_cons, answer_carrying]
      exact ih _

theorem heard_carrying (frames : List Frame) :
    heard services (session.carrying other) frames = heard services session frames := by
  induction frames generalizing session with
  | nil => rfl
  | cons frame rest ih =>
      have same : (session.carrying other).isEnded = session.isEnded := rfl
      rw [heard, heard, same, answer_carrying, ih]

theorem close_carrying : (session.carrying other).close = session.close.carrying other := by
  have same : (session.carrying other).stage = session.stage := rfl
  rw [close, close, same]
  split <;> rfl

end Carrying

section Play

variable (services : Services)

theorem stage_of_ended {session : Session} (ended : session.isEnded = true) :
    ∃ result, session.stage = .ended result := by
  cases stage : session.stage with
  | login =>
      rw [isEnded, stage] at ended
      cases ended
  | commands =>
      rw [isEnded, stage] at ended
      cases ended
  | ended result => exact ⟨result, rfl⟩

theorem answer_ended {session : Session} (ended : session.isEnded = true) (frame : Frame) :
    session.answer services frame = session := by
  obtain ⟨result, stage⟩ := stage_of_ended ended
  rw [answer, stage]

theorem play_ended {session : Session} (ended : session.isEnded = true) (frames : List Frame) :
    play services session frames = session := by
  induction frames with
  | nil => rfl
  | cons frame rest ih =>
      rw [play, List.foldl_cons, answer_ended services ended]
      exact ih

theorem heard_ended {session : Session} (ended : session.isEnded = true) (frames : List Frame) :
    heard services session frames = 0 := by
  cases frames with
  | nil => rfl
  | cons frame rest => rw [heard, if_pos ended]

theorem play_append (session : Session) (frames later : List Frame) :
    play services session (frames ++ later) =
      play services (play services session frames) later :=
  List.foldl_append

theorem heard_append (session : Session) (frames later : List Frame) :
    heard services session (frames ++ later) =
      heard services session frames + heard services (play services session frames) later := by
  induction frames generalizing session with
  | nil => rw [List.nil_append, heard, Nat.zero_add, play, List.foldl_nil]
  | cons frame rest ih =>
      rw [List.cons_append, heard, heard, play, List.foldl_cons]
      split
      · rename_i ended
        rw [answer_ended services ended]
        rw [← play, play_ended services ended, heard_ended services ended]
      · rw [ih, ← play]
        omega

theorem heard_le (session : Session) (frames : List Frame) :
    heard services session frames ≤ frames.length := by
  induction frames generalizing session with
  | nil => exact Nat.le_refl 0
  | cons frame rest ih =>
      rw [heard]
      split
      · exact Nat.zero_le _
      · exact Nat.succ_le_succ (ih _)

theorem heard_of_open
    (session : Session)
    (frames : List Frame)
    (goesOn : (play services session frames).isEnded = false) :
    heard services session frames = frames.length := by
  induction frames generalizing session with
  | nil => rfl
  | cons frame rest ih =>
      rw [heard]
      split
      · rename_i ended
        rw [play_ended services ended, ended] at goesOn
        cases goesOn
      · rw [ih _ goesOn, List.length_cons]

end Play

section Run

variable (services : Services)

def TimedOut (session : Session) : Prop :=
  ∃ cause, session.result? = some (.error (.timeout cause))

def closeIf (inputEnded : Bool) (session : Session) : Session :=
  if inputEnded then session.close else session

theorem close_ended {session : Session} (ended : session.isEnded = true) :
    session.close = session := by
  obtain ⟨result, stage⟩ := stage_of_ended ended
  rw [close, stage]

theorem closeIf_ended {session : Session} (ended : session.isEnded = true) (inputEnded : Bool) :
    closeIf inputEnded session = session := by
  rw [closeIf]
  split
  · exact close_ended ended
  · rfl

theorem run_of_wait {session : Session} (moves : session.nextMove = .wait) :
    run services session = session := by
  rw [run.eq_1 services session]
  split <;> rename_i other <;> rw [moves] at other <;> cases other

theorem run_of_finish
    {session : Session}
    {result : Except Fault Unit}
    (moves : session.nextMove = .finish result) :
    run services session = session.finish result := by
  rw [run.eq_1 services session]
  split <;> rename_i other <;> rw [moves] at other <;> cases other
  rfl

theorem run_of_answerLogin
    {session : Session}
    {frame : Frame}
    {rest : Bytes}
    (moves : session.nextMove = .answerLogin frame rest) :
    run services session =
      run services ((session.carrying { session.transport with unread := rest }).answerLogin
        services frame) := by
  rw [run.eq_1 services session]
  split <;> rename_i other <;> rw [moves] at other <;> cases other
  rfl

theorem run_of_answerCommand
    {session : Session}
    {frame : Frame}
    {rest : Bytes}
    (moves : session.nextMove = .answerCommand frame rest) :
    run services session =
      run services ((session.carrying { session.transport with unread := rest }).answerCommand
        services frame) := by
  rw [run.eq_1 services session]
  split <;> rename_i other <;> rw [moves] at other <;> cases other
  rfl

theorem run_ended {session : Session} (ended : session.isEnded = true) :
    run services session = session := by
  obtain ⟨result, stage⟩ := stage_of_ended ended
  apply run_of_wait
  rw [nextMove, stage]

theorem run_quiet_login
    {session : Session}
    (stage : session.stage = .login)
    (found : Frame.read? session.unread = none) :
    TimedOut (run services session) ∨
      run services session = closeIf session.inputEnded session := by
  cases inputEnded : session.inputEnded with
  | true =>
      have moves : session.nextMove = .finish (.error .streamEnded) := by
        simp only [nextMove, stage, found, inputEnded, if_true]
      apply Or.inr
      rw [run_of_finish services moves, closeIf, if_pos rfl, close, stage]
  | false =>
      cases overdue : session.isOverdue with
      | true =>
          have moves : ∃ cause, session.nextMove = .finish (.error (.timeout cause)) := by
            simp only [nextMove, stage, found, inputEnded, overdue, Bool.false_eq_true, if_false,
              if_true]
            exact ⟨_, rfl⟩
          obtain ⟨cause, moves⟩ := moves
          apply Or.inl
          rw [run_of_finish services moves]
          exact ⟨cause, rfl⟩
      | false =>
          have moves : session.nextMove = .wait := by
            simp only [nextMove, stage, found, inputEnded, overdue, Bool.false_eq_true, if_false]
          exact .inr (run_of_wait services moves)

theorem run_quiet_commands
    {session : Session}
    (stage : session.stage = .commands)
    (steady : session.stopping = false)
    (found : Frame.read? session.unread = none) :
    run services session = closeIf session.inputEnded session := by
  cases inputEnded : session.inputEnded with
  | true =>
      have moves : session.nextMove = .finish (.ok ()) := by
        simp only [nextMove, stage, steady, found, inputEnded, Bool.false_and, Bool.or_false,
          Bool.false_eq_true, if_false, if_true]
      rw [run_of_finish services moves, closeIf, if_pos rfl, close, stage]
  | false =>
      have moves : session.nextMove = .wait := by
        simp only [nextMove, stage, steady, found, inputEnded, Bool.false_and, Bool.or_false,
          Bool.false_eq_true, if_false]
      exact run_of_wait services moves

/-- Without a complete frame a session waits, unless its stream or its time is over. -/
theorem run_quiet
    {session : Session}
    (steady : session.stopping = false)
    (found : Frame.read? session.unread = none) :
    TimedOut (run services session) ∨
      run services session = closeIf session.inputEnded session := by
  cases stage : session.stage with
  | login => exact run_quiet_login services stage found
  | commands => exact .inr (run_quiet_commands services stage steady found)
  | ended result =>
      have ended : session.isEnded = true := by rw [isEnded, stage]
      exact .inr ((run_ended services ended).trans (closeIf_ended ended _).symm)

theorem run_answer
    {session : Session}
    {frame : Frame}
    {rest : Bytes}
    (steady : session.stopping = false)
    (goesOn : session.isEnded = false)
    (found : Frame.read? session.unread = some (frame, rest)) :
    run services session =
      run services ((session.carrying { session.transport with unread := rest }).answer services
        frame) := by
  rw [answer, show (session.carrying _).stage = session.stage from rfl]
  cases stage : session.stage with
  | login =>
      apply run_of_answerLogin
      simp only [nextMove, stage, found]
  | commands =>
      apply run_of_answerCommand
      simp only [nextMove, stage, found, steady, Bool.false_and, Bool.false_eq_true, if_false]
  | ended result =>
      rw [isEnded, stage] at goesOn
      cases goesOn

structure Reads
    (session : Session)
    (arrived unread : Bytes) :
    Prop where
  /-- The session reads the frames that it hears, and nothing behind them. -/
  takes : ∃ later,
    arrived = ((Frame.frames arrived).take (heard services session (Frame.frames arrived))).flatMap
      Frame.bytes ++ unread ++ later
  /-- A session that goes on has read every complete frame. -/
  waits : (play services session (Frame.frames arrived)).isEnded = false →
    unread = Frame.left arrived

theorem reads_of_carrying
    {session : Session}
    {other : Transport}
    {arrived unread : Bytes}
    (reads : Reads services (session.carrying other) arrived unread) :
    Reads services session arrived unread where
  takes := by
    have takes := reads.takes
    rw [heard_carrying] at takes
    exact takes
  waits := by
    have waits := reads.waits
    rw [play_carrying] at waits
    exact waits

theorem reads_ended {session : Session} (ended : session.isEnded = true) (arrived : Bytes) :
    Reads services session arrived arrived where
  takes := by
    rw [heard_ended services ended]
    exact ⟨[], (List.append_nil arrived).symm⟩
  waits := by
    intro goesOn
    rw [play_ended services ended, ended] at goesOn
    cases goesOn

theorem reads_quiet
    (session : Session)
    {arrived : Bytes}
    (found : Frame.read? arrived = none) :
    Reads services session arrived arrived where
  takes := by
    rw [Frame.frames_of_none found]
    exact ⟨[], (List.append_nil arrived).symm⟩
  waits := fun _ => (Frame.left_of_none found).symm

theorem reads_next
    {session : Session}
    {arrived rest unread : Bytes}
    {frame : Frame}
    (goesOn : session.isEnded = false)
    (found : Frame.read? arrived = some (frame, rest))
    (reads : Reads services (session.answer services frame) rest unread) :
    Reads services session arrived unread where
  takes := by
    obtain ⟨later, split⟩ := reads.takes
    refine ⟨later, ?_⟩
    rw [Frame.frames_of_some found, heard, goesOn, if_neg Bool.false_ne_true, List.take_succ_cons,
      List.flatMap_cons, List.append_assoc, List.append_assoc, ← List.append_assoc _ unread,
      ← split]
    exact (Frame.fits_of_read? found).2
  waits := by
    rw [Frame.frames_of_some found, Frame.left_of_some found]
    exact reads.waits

theorem run_plays
    {session : Session}
    (steady : session.stopping = false) :
    TimedOut (run services session) ∨
      ∃ unread,
        run services session =
          closeIf session.inputEnded
            ((play services session (Frame.frames session.unread)).carrying
              { session.transport with unread }) ∧
          Reads services session session.unread unread := by
  generalize arrives : session.unread = arrived
  -- Each answered frame shortens the unread bytes, whatever becomes of the session.
  induction arrived using Frame.stream_induction generalizing session with
  | quiet arrived found =>
      rcases run_quiet services steady (by rw [arrives, found]) with timedOut | closed
      · exact .inl timedOut
      · refine .inr ⟨arrived, ?_, reads_quiet services session found⟩
        rw [closed, Frame.frames_of_none found, ← arrives]
        rfl
  | next arrived frame rest found ih =>
      cases ended : session.isEnded with
      | true =>
          refine .inr ⟨arrived, ?_, reads_ended services ended arrived⟩
          rw [run_ended services ended, play_ended services ended, closeIf_ended, ← arrives]
          · rfl
          · exact ended
      | false =>
          have runs := run_answer services steady ended (by rw [arrives, found])
          rw [answer_carrying] at runs
          rw [runs]
          rcases @ih ((session.answer services frame).carrying
            { session.transport with unread := rest }) steady rfl with timedOut | played
          · exact .inl timedOut
          · obtain ⟨unread, played, reads⟩ := played
            refine .inr ⟨unread, ?_, ?_⟩
            · rw [played, play_carrying, Frame.frames_of_some found]
              rfl
            · apply reads_next services ended found
              exact reads_of_carrying services reads

end Run

end SqlGate.Session
