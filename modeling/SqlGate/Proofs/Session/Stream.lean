import Mathlib.Data.List.Induction
import SqlGate.Proofs.Session.Play

/-!
# Sessions and their streams

How a client's bytes are cut into events, and when they arrive, changes nothing
as long as no time limit is hit: the session plays the complete frames of all of
them, and closes when the stream ends.
-/

namespace SqlGate.Session

set_option autoImplicit false

def Event.isQuiet : Event → Bool
  | .bytes _ => true
  | .elapse _ => true
  | .inputEnd => false
  | .stop => false

def Event.chunk : Event → Bytes
  | .bytes chunk => chunk
  | _ => []

section Events

variable (services : Services)

/-- A session that has taken in these bytes, unless its time was over. -/
def TookIn (start : Session) (arrived : Bytes) (session : Session) : Prop :=
  TimedOut session ∨
    ∃ other,
      session = (play services start (Frame.frames arrived)).carrying other ∧
        other.inputEnded = false ∧ other.stopping = false ∧
        Reads services start arrived other.unread

theorem isEnded_of_timedOut {session : Session} (timedOut : TimedOut session) :
    session.isEnded = true := by
  obtain ⟨cause, result⟩ := timedOut
  cases stage : session.stage with
  | login =>
      rw [result?, stage] at result
      cases result
  | commands =>
      rw [result?, stage] at result
      cases result
  | ended outcome => rw [isEnded, stage]

theorem handle_ended {session : Session} (ended : session.isEnded = true) (event : Event) :
    handle services session event = session := by
  rw [handle, if_pos ended]

theorem absorb_quiet
    (session : Session)
    {event : Event}
    (quiet : event.isQuiet = true)
    (goesOn : session.inputEnded = false) :
    ∃ clock,
      session.absorb event =
        session.carrying
          { session.transport with unread := session.unread ++ event.chunk, clock } := by
  cases event with
  | bytes chunk =>
      refine ⟨session.clock, ?_⟩
      rw [absorb, if_neg (by rw [goesOn]; exact Bool.false_ne_true)]
      rfl
  | elapse millis =>
      refine ⟨session.clock + millis, ?_⟩
      rw [show (Event.elapse millis).chunk = [] from rfl, List.append_nil]
      rfl
  | inputEnd => cases quiet
  | stop => cases quiet

theorem reads_append_ended
    {start : Session}
    {arrived unread : Bytes}
    (ended : (play services start (Frame.frames arrived)).isEnded = true)
    (reads : Reads services start arrived unread)
    (chunk : Bytes) :
    Reads services start (arrived ++ chunk) unread where
  takes := by
    obtain ⟨later, split⟩ := reads.takes
    refine ⟨later ++ chunk, ?_⟩
    rw [Frame.frames_append, heard_append, heard_ended services ended, Nat.add_zero,
      List.take_append_of_le_length (heard_le services start _), ← List.append_assoc, ← split]
  waits := by
    intro goesOn
    rw [Frame.frames_append, play_append, play_ended services ended, ended] at goesOn
    cases goesOn

theorem reads_append
    {start : Session}
    {arrived chunk unread : Bytes}
    (goesOn : (play services start (Frame.frames arrived)).isEnded = false)
    (reads : Reads services (play services start (Frame.frames arrived))
      (Frame.left arrived ++ chunk) unread) :
    Reads services start (arrived ++ chunk) unread where
  takes := by
    obtain ⟨later, split⟩ := reads.takes
    refine ⟨later, ?_⟩
    rw [Frame.frames_append, heard_append, heard_of_open services start _ goesOn,
      List.take_length_add_append, List.flatMap_append, List.append_assoc, List.append_assoc,
      ← List.append_assoc _ unread, ← split, ← List.append_assoc, Frame.bytes_frames]
  waits := by
    rw [Frame.frames_append, play_append, Frame.left_append]
    exact reads.waits

/-- A session that was left with a part of a frame goes on from there. -/
theorem run_resumes
    {start : Session}
    {arrived chunk : Bytes}
    (goesOn : (play services start (Frame.frames arrived)).isEnded = false)
    (other : Transport)
    (steady : other.stopping = false)
    (holds : other.unread = Frame.left arrived ++ chunk) :
    let final := run services ((play services start (Frame.frames arrived)).carrying other)
    TimedOut final ∨
      ∃ unread,
        final =
          closeIf other.inputEnded
            ((play services start (Frame.frames (arrived ++ chunk))).carrying
              { other with unread }) ∧
          Reads services start (arrived ++ chunk) unread := by
  intro final
  let resumed := (play services start (Frame.frames arrived)).carrying other
  have holding : resumed.unread = Frame.left arrived ++ chunk := holds
  rcases @run_plays services resumed steady with timedOut | ⟨unread, played, reads⟩
  · exact .inl timedOut
  · rw [holding] at played reads
    refine .inr ⟨unread, ?_, reads_append services goesOn (reads_of_carrying services reads)⟩
    rw [Frame.frames_append, play_append, ← carrying_carrying _ other, ← play_carrying]
    exact played

theorem tookIn_handle
    {start session : Session}
    {arrived : Bytes}
    {event : Event}
    (quiet : event.isQuiet = true)
    (tookIn : TookIn services start arrived session) :
    TookIn services start (arrived ++ event.chunk) (handle services session event) := by
  rcases tookIn with timedOut | ⟨other, same, listens, steady, reads⟩
  · rw [handle_ended services (isEnded_of_timedOut timedOut)]
    exact .inl timedOut
  · subst same
    let before := (play services start (Frame.frames arrived)).carrying other
    cases ended : (play services start (Frame.frames arrived)).isEnded with
    | true =>
        rw [@handle_ended services before ended event]
        refine .inr ⟨other, ?_, listens, steady, reads_append_ended services ended reads _⟩
        rw [Frame.frames_append, play_append, play_ended services ended]
    | false =>
        obtain ⟨clock, absorbed⟩ := absorb_quiet before quiet listens
        let fed : Transport := { other with unread := other.unread ++ event.chunk, clock }
        have holds : fed.unread = Frame.left arrived ++ event.chunk :=
          congrArg (· ++ event.chunk) (reads.waits ended)
        have handled : handle services before event = run services (before.absorb event) :=
          if_neg (ne_true_of_eq_false ended)
        rw [handled, absorbed]
        rcases run_resumes services ended fed steady holds with timedOut | ⟨unread, played, reads⟩
        · exact .inl timedOut
        · exact .inr ⟨{ fed with unread }, played.trans (if_neg (ne_true_of_eq_false listens)),
            listens, steady, reads⟩

theorem tookIn_start {start : Session} (fresh : start.transport = {}) :
    TookIn services start [] start := by
  have quiet : Frame.read? [] = none := rfl
  refine .inr ⟨{}, ?_, rfl, rfl, reads_quiet services start quiet⟩
  rw [Frame.frames_of_none quiet, ← fresh]
  rfl

theorem tookIn_events
    {start : Session}
    (fresh : start.transport = {})
    (events : List Event)
    (quiet : ∀ event ∈ events, event.isQuiet = true) :
    TookIn services start (events.flatMap Event.chunk)
      (events.foldl (handle services) start) := by
  induction events using List.reverseRecOn with
  | nil => exact tookIn_start services fresh
  | append_singleton earlier event ih =>
      have before := ih fun event member => quiet event (List.mem_append_left _ member)
      have step := tookIn_handle services (quiet event List.mem_concat_self) before
      rw [List.flatMap_append, List.foldl_append, List.flatMap_singleton]
      exact step

/-- However the bytes of a client are cut and delayed, the session plays their
frames, and then closes. -/
theorem handle_plays
    {start : Session}
    (fresh : start.transport = {})
    (events : List Event)
    (quiet : ∀ event ∈ events, event.isQuiet = true) :
    let final := (events ++ [Event.inputEnd]).foldl (handle services) start
    let arrived := events.flatMap Event.chunk
    TimedOut final ∨
      ∃ other,
        final = (play services start (Frame.frames arrived)).close.carrying other ∧
          Reads services start arrived other.unread := by
  intro final arrived
  have final_eq : final = handle services (events.foldl (handle services) start) .inputEnd := by
    simp only [final, List.foldl_append, List.foldl_cons, List.foldl_nil]
  rw [final_eq]
  rcases tookIn_events services fresh events quiet with timedOut | ⟨other, same, rest⟩
  · rw [handle_ended services (isEnded_of_timedOut timedOut)]
    exact .inl timedOut
  · obtain ⟨listens, steady, reads⟩ := rest
    rw [same]
    let before := (play services start (Frame.frames arrived)).carrying other
    cases ended : (play services start (Frame.frames arrived)).isEnded with
    | true =>
        rw [@handle_ended services before ended .inputEnd]
        refine .inr ⟨other, ?_, reads⟩
        rw [close_ended ended]
    | false =>
        have holds : other.unread = Frame.left arrived ++ [] := by
          rw [reads.waits ended, List.append_nil]
        have handled : handle services before .inputEnd =
            run services (before.absorb .inputEnd) :=
          if_neg (ne_true_of_eq_false ended)
        rw [handled]
        rcases run_resumes services ended { other with inputEnded := true } steady holds
          with timedOut | ⟨unread, played, reads⟩
        · exact .inl timedOut
        · rw [List.append_nil] at played reads
          refine .inr ⟨{ other with inputEnded := true, unread }, ?_, reads⟩
          exact played.trans (close_carrying _ _)

end Events

end SqlGate.Session
