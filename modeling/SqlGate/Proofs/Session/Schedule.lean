import SqlGate.Proofs.Session.Moves

/-!
# Schedules

What happens to a session is cut finely here: events arrive, and now and then the server
takes a turn, which is one move with the services of the moment. So a server may lag behind
its client, and several events may come before its next turn. To handle an event is to take
it in and then to take turns until there is nothing left to do.
-/

namespace SqlGate.Session

set_option autoImplicit false

inductive Occurrence where
  | arrives (event : Event)
  /-- The server makes its next move, if it has one. -/
  | turn (services : Services)

def act (services : Services) (session : Session) : Session :=
  match session.nextMove with
  | .wait => session
  | .finish result => session.finish result
  | .answerLogin frame rest => { session with unread := rest }.answerLogin services frame
  | .answerCommand frame rest => { session with unread := rest }.answerCommand services frame

def occur (session : Session) : Occurrence → Session
  | .arrives event => if session.isEnded then session else session.absorb event
  | .turn services => session.act services

def follow (session : Session) (schedule : List Occurrence) : Session :=
  schedule.foldl occur session

/-! ## What a schedule brings -/

def Occurrence.event? : Occurrence → Option Event
  | .arrives event => some event
  | .turn _ => none

def Event.millis : Event → Nat
  | .elapse millis => millis
  | _ => 0

def arrivals (schedule : List Occurrence) : List Event := schedule.filterMap Occurrence.event?

def arrived (schedule : List Occurrence) : Bytes := (arrivals schedule).flatMap Event.chunk

def elapsed (schedule : List Occurrence) : Nat :=
  (arrivals schedule).foldr (fun event later => event.millis + later) 0

def Closes (schedule : List Occurrence) : Prop := .arrives .inputEnd ∈ schedule

section Schedule

variable (session : Session)
variable (earlier later : List Occurrence)

@[simp] theorem follow_nil : session.follow [] = session := rfl

@[simp] theorem follow_cons (occurrence : Occurrence) :
    session.follow (occurrence :: later) = (session.occur occurrence).follow later := rfl

@[simp] theorem follow_append :
    session.follow (earlier ++ later) = (session.follow earlier).follow later :=
  List.foldl_append

@[simp] theorem arrivals_arrives (event : Event) :
    arrivals (.arrives event :: later) = event :: arrivals later := rfl

@[simp] theorem arrivals_turn (services : Services) :
    arrivals (.turn services :: later) = arrivals later := rfl

theorem arrivals_turns (services : Services) (count : Nat) :
    arrivals (List.replicate count (.turn services)) = [] := by
  induction count with
  | zero => rfl
  | succ count ih => simp [List.replicate_succ, ih]

theorem arrivals_append : arrivals (earlier ++ later) = arrivals earlier ++ arrivals later :=
  List.filterMap_append

theorem arrived_append : arrived (earlier ++ later) = arrived earlier ++ arrived later := by
  simp [arrived, arrivals_append]

@[simp] theorem arrived_nil : arrived [] = [] := rfl

@[simp] theorem elapsed_nil : elapsed [] = 0 := rfl

@[simp] theorem arrived_arrives (event : Event) :
    arrived (.arrives event :: later) = event.chunk ++ arrived later := by
  simp [arrived]

@[simp] theorem arrived_turn (services : Services) :
    arrived (.turn services :: later) = arrived later := by
  simp [arrived]

@[simp] theorem elapsed_arrives (event : Event) :
    elapsed (.arrives event :: later) = event.millis + elapsed later := by
  simp [elapsed]

@[simp] theorem elapsed_turn (services : Services) :
    elapsed (.turn services :: later) = elapsed later := by
  simp [elapsed]

theorem elapsed_append : elapsed (earlier ++ later) = elapsed earlier + elapsed later := by
  induction earlier with
  | nil => simp
  | cons occurrence rest ih => cases occurrence <;> simp [ih, Nat.add_assoc]

end Schedule

/-! ## One turn -/

section Turn

variable (services : Services)
variable {session : Session}

inductive Turns (services : Services) (session : Session) : Session → Prop where
  | waits (moves : session.nextMove = .wait) : Turns services session session
  | finishes
      (result : Except Fault Unit)
      (moves : session.nextMove = .finish result) :
      Turns services session (session.finish result)
  | answers
      (frame : Frame)
      (rest : Bytes)
      (moves : session.nextMove = .answerLogin frame rest ∨
        session.nextMove = .answerCommand frame rest) :
      Turns services session
        ((session.answer services frame).carrying { session.transport with unread := rest })

def timeoutOf (limit : Nat) : Fault :=
  .timeout ("Handshake not completed within " ++ Duration.text limit)

inductive Finishes (session : Session) : Except Fault Unit → Prop where
  | closed
      (stage : session.stage = .login)
      (quiet : Frame.read? session.unread = none)
      (inputEnded : session.inputEnded = true) :
      Finishes session (.error .streamEnded)
  | overdue
      (stage : session.stage = .login)
      (quiet : Frame.read? session.unread = none)
      (listens : session.inputEnded = false)
      (late : session.isOverdue = true) :
      Finishes session (.error (timeoutOf session.settings.handshakeMillis))
  | served
      (stage : session.stage = .commands)
      (why : session.stopping = true ∨
        Frame.read? session.unread = none ∧ session.inputEnded = true) :
      Finishes session (.ok ())

structure Idle (session : Session) : Prop where
  quiet : Frame.read? session.unread = none
  listens : session.inputEnded = false
  inTime : session.stage = .login → session.isOverdue = false
  steady : session.stage = .commands → session.stopping = false

theorem finishes_of_nextMove
    {result : Except Fault Unit}
    (moves : session.nextMove = .finish result) :
    Finishes session result := by
  unfold nextMove at moves
  cases stage : session.stage with
  | ended last => simp [stage] at moves
  | login =>
      cases quiet : Frame.read? session.unread with
      | some read => simp [stage, quiet] at moves
      | none =>
          simp only [stage, quiet] at moves
          split at moves
          · rename_i inputEnded
            cases moves
            exact .closed stage quiet inputEnded
          · rename_i listens
            split at moves
            · rename_i late
              cases moves
              exact .overdue stage quiet (eq_false_of_ne_true listens) late
            · cases moves
  | commands =>
      simp only [stage] at moves
      split at moves
      · rename_i stops
        cases moves
        exact .served stage (.inl (Bool.and_eq_true_iff.mp stops).1)
      · cases quiet : Frame.read? session.unread with
        | some read => simp [quiet] at moves
        | none =>
            simp only [quiet] at moves
            split at moves
            · rename_i ends
              cases moves
              rcases Bool.or_eq_true_iff.mp ends with inputEnded | stops
              · exact .served stage (.inr ⟨quiet, inputEnded⟩)
              · exact .served stage (.inl stops)
            · cases moves

theorem idle_of_wait
    (goesOn : session.isEnded = false)
    (moves : session.nextMove = .wait) :
    Idle session := by
  unfold nextMove at moves
  cases stage : session.stage with
  | ended last => simp [isEnded, stage] at goesOn
  | login =>
      cases quiet : Frame.read? session.unread with
      | some read => simp [stage, quiet] at moves
      | none =>
          simp only [stage, quiet] at moves
          cases inputEnded : session.inputEnded with
          | true => simp [inputEnded] at moves
          | false =>
              cases late : session.isOverdue with
              | true => simp [inputEnded, late] at moves
              | false =>
                  exact ⟨quiet, inputEnded, fun _ => late, fun serves => by simp [stage] at serves⟩
  | commands =>
      cases stops : session.stopping with
      | true =>
          simp only [stage, stops, Bool.or_true, if_true] at moves
          split at moves
          · cases moves
          · split at moves <;> cases moves
      | false =>
          cases quiet : Frame.read? session.unread with
          | some read => simp [stage, stops, quiet] at moves
          | none =>
              cases inputEnded : session.inputEnded with
              | true => simp [stage, stops, quiet, inputEnded] at moves
              | false =>
                  exact ⟨quiet, inputEnded, fun waits => by simp [stage] at waits, fun _ => stops⟩

theorem isEnded_of_answers
    {frame : Frame}
    {rest : Bytes}
    (moves : session.nextMove = .answerLogin frame rest ∨
      session.nextMove = .answerCommand frame rest) :
    session.isEnded = false := by
  rcases moves with login | command
  · rw [isEnded, stage_of_answerLogin login]
  · rw [isEnded, stage_of_answerCommand command]

theorem act_of_wait (moves : session.nextMove = .wait) : session.act services = session := by
  simp only [act, moves]

theorem act_of_finish
    {result : Except Fault Unit}
    (moves : session.nextMove = .finish result) :
    session.act services = session.finish result := by
  simp only [act, moves]

theorem act_of_answers
    {frame : Frame}
    {rest : Bytes}
    (moves : session.nextMove = .answerLogin frame rest ∨
      session.nextMove = .answerCommand frame rest) :
    session.act services =
      (session.answer services frame).carrying { session.transport with unread := rest } := by
  rw [← answer_carrying, answer]
  rcases moves with login | command
  · simp only [act, login, carrying, stage_of_answerLogin login]
    rfl
  · simp only [act, command, carrying, stage_of_answerCommand command]
    rfl

theorem turns_act (session : Session) : Turns services session (session.act services) := by
  cases moves : session.nextMove with
  | wait =>
      rw [act_of_wait services moves]
      exact .waits moves
  | finish result =>
      rw [act_of_finish services moves]
      exact .finishes result moves
  | answerLogin frame rest =>
      rw [act_of_answers services (.inl moves)]
      exact .answers frame rest (.inl moves)
  | answerCommand frame rest =>
      rw [act_of_answers services (.inr moves)]
      exact .answers frame rest (.inr moves)

theorem nextMove_of_ended (ended : session.isEnded = true) : session.nextMove = .wait := by
  obtain ⟨result, stage⟩ := stage_of_ended ended
  rw [nextMove, stage]

theorem occur_ended (ended : session.isEnded = true) (occurrence : Occurrence) :
    session.occur occurrence = session := by
  cases occurrence with
  | arrives event => exact if_pos ended
  | turn services => exact act_of_wait services (nextMove_of_ended ended)

theorem follow_ended (ended : session.isEnded = true) (schedule : List Occurrence) :
    session.follow schedule = session := by
  induction schedule with
  | nil => rfl
  | cons occurrence rest ih => rw [follow_cons, occur_ended ended, ih]

theorem act_shortens
    (moves : session.nextMove ≠ .wait)
    (goesOn : (session.act services).isEnded = false) :
    (session.act services).unread.length < session.unread.length := by
  have turns := turns_act services session
  generalize session.act services = after at turns goesOn ⊢
  cases turns with
  | waits waits => exact absurd waits moves
  | finishes result finishes => cases goesOn
  | answers frame rest answers => exact Frame.read?_length_lt (read?_of_nextMove answers)

theorem run_act (session : Session) : run services (session.act services) = run services session := by
  cases moves : session.nextMove with
  | wait => rw [act_of_wait services moves]
  | finish result =>
      rw [run_of_finish services moves, act_of_finish services moves]
      exact run_ended services rfl
  | answerLogin frame rest =>
      rw [run_of_answerLogin services moves]
      simp only [act, moves]
      rfl
  | answerCommand frame rest =>
      rw [run_of_answerCommand services moves]
      simp only [act, moves]
      rfl

theorem nextMove_run (session : Session) : (run services session).nextMove = .wait := by
  fun_induction run services session with
  | case1 session moves => exact moves
  | case2 session result moves => exact nextMove_of_ended rfl
  | case3 session frame rest moves ih => exact ih
  | case4 session frame rest moves ih => exact ih

/-- To run is to take turns, as many as there are bytes to read and one more. -/
theorem follow_turns
    {count : Nat}
    (enough : session.unread.length < count) :
    session.follow (List.replicate count (.turn services)) = run services session := by
  induction count generalizing session with
  | zero => omega
  | succ count ih =>
      rw [List.replicate_succ, follow_cons, ← run_act services session]
      change (session.act services).follow _ = _
      by_cases moves : session.nextMove = .wait
      · rw [act_of_wait services moves, run_of_wait services moves]
        clear ih enough
        induction count with
        | zero => rfl
        | succ count ih =>
            rw [List.replicate_succ, follow_cons, occur, act_of_wait services moves, ih]
      · cases goesOn : (session.act services).isEnded with
        | true => rw [follow_ended goesOn, run_ended services goesOn]
        | false =>
            have shorter := act_shortens services moves goesOn
            exact ih (by omega)

theorem handle_eq_follow (session : Session) (event : Event) :
    ∃ count,
      handle services session event =
        session.follow (.arrives event :: List.replicate count (.turn services)) := by
  cases ended : session.isEnded with
  | true =>
      refine ⟨0, ?_⟩
      rw [handle_ended services ended, follow_ended ended]
  | false =>
      refine ⟨(session.absorb event).unread.length + 1, ?_⟩
      have takesIn : session.occur (.arrives event) = session.absorb event :=
        if_neg (ne_true_of_eq_false ended)
      rw [follow_cons, takesIn, follow_turns services (Nat.lt_succ_self _), handle,
        if_neg (ne_true_of_eq_false ended)]

theorem nextMove_handle (session : Session) (event : Event) :
    (handle services session event).nextMove = .wait := by
  cases ended : session.isEnded with
  | true =>
      rw [handle_ended services ended]
      exact nextMove_of_ended ended
  | false =>
      rw [handle, if_neg (ne_true_of_eq_false ended)]
      exact nextMove_run services _

/-- Events that are handled one after the other, each with its own services, are a schedule that
brings the same. So what holds of every schedule holds of every session that handles events. -/
theorem handle_events_eq_follow (session : Session) (events : List (Services × Event)) :
    ∃ schedule,
      events.foldl (fun session event => handle event.1 session event.2) session =
          session.follow schedule ∧
        arrivals schedule = events.map Prod.snd := by
  induction events generalizing session with
  | nil => exact ⟨[], rfl, rfl⟩
  | cons event rest ih =>
      obtain ⟨services, event⟩ := event
      obtain ⟨count, handled⟩ := handle_eq_follow services session event
      obtain ⟨later, followed, brings⟩ := ih (handle services session event)
      refine ⟨(.arrives event :: List.replicate count (.turn services)) ++ later, ?_, ?_⟩
      · rw [follow_append, ← handled]
        exact followed
      · simp [arrivals_append, arrivals_turns, brings]

end Turn

/-! ## What every schedule keeps -/

section Reached

variable {settings : Settings}
variable {ids : ConnectionIds}
variable {scramble : Scramble}
variable {session : Session}

theorem start_fresh (settings : Settings) (ids : ConnectionIds) (scramble : Scramble) :
    (start settings ids scramble).1.transport = {} ∧
      (start settings ids scramble).1.settings = settings := by
  obtain ⟨outbound, sent⟩ : ∃ outbound, (greeting settings ids scramble).sent = [outbound] :=
    ⟨_, rfl⟩
  rw [start_eq, sent, write_single]
  split
  · exact ⟨rfl, rfl⟩
  · exact ⟨rfl, rfl⟩

theorem reached_occur
    (reached : Reached Frame.maxPayload settings ids scramble session)
    (occurrence : Occurrence) :
    Reached Frame.maxPayload settings ids scramble (session.occur occurrence) := by
  cases occurrence with
  | arrives event =>
      cases ended : session.isEnded with
      | true =>
          rw [occur_ended ended]
          exact reached
      | false =>
          rw [occur, if_neg (ne_true_of_eq_false ended)]
          exact .takesIn event ended reached
  | turn services =>
      simp only [occur, act]
      cases moves : session.nextMove with
      | wait => exact reached
      | finish result => exact .finishes moves reached
      | answerLogin frame rest =>
          have fits := (Frame.fits_of_read? (read?_of_nextMove (.inl moves))).1
          exact .answersLogin services moves fits reached
      | answerCommand frame rest =>
          have fits := (Frame.fits_of_read? (read?_of_nextMove (.inr moves))).1
          exact .answersCommand services moves fits reached

theorem reached_follow
    (reached : Reached Frame.maxPayload settings ids scramble session)
    (schedule : List Occurrence) :
    Reached Frame.maxPayload settings ids scramble (session.follow schedule) := by
  induction schedule generalizing session with
  | nil => exact reached
  | cons occurrence rest ih => exact ih (reached_occur reached occurrence)

end Reached

/-! ## What every answer keeps -/

/-- A property that is kept by all that an answer is made of. -/
structure Kept (holds : Session → Prop) : Prop where
  sends : ∀ (session : Session) (frame : Frame), frame.payload.length ≤ Frame.maxPayload →
    holds session → holds { session with written := session.written.push frame }
  informs : ∀ (session : Session) exchange answered, holds session →
    holds { session with exchange, answered }
  admits : ∀ session : Session, holds session → holds { session with stage := .commands }
  ends : ∀ (session : Session) result, (∀ cause, result ≠ .error (.timeout cause)) →
    holds session → holds (session.finish result)

section Kept

variable {holds : Session → Prop}
variable {session : Session}

theorem Kept.write (kept : Kept holds) (before : holds session) (outbound : List Outbound) :
    holds (session.write outbound) := by
  induction outbound generalizing session with
  | nil => exact before
  | cons first rest ih =>
      rw [Session.write]
      cases encodes : (first.frame session.exchange.handshake.capabilities).encode with
      | error problem => exact kept.ends session _ (by simp [Fault.ofWire]) before
      | ok bytes =>
          have fits : (first.frame session.exchange.handshake.capabilities).payload.length ≤
              Frame.maxPayload := by
            unfold Frame.encode at encodes
            split at encodes
            · assumption
            · cases encodes
          exact ih (kept.sends session _ fits before)

theorem Kept.writeThen
    (kept : Kept holds)
    (before : holds session)
    (outbound : List Outbound)
    {next : Session → Session}
    (goesOn : ∀ later, holds later → holds (next later)) :
    holds (session.writeThen outbound next) := by
  have written := kept.write before outbound
  rw [Session.writeThen]
  split
  · exact written
  · exact goesOn _ written

theorem Kept.answerLogin
    (kept : Kept holds)
    (before : holds session)
    (services : Services)
    (frame : Frame) :
    holds (session.answerLogin services frame) := by
  rw [Session.answerLogin]
  split
  · rename_i outcome exchange judged
    apply kept.writeThen (kept.informs session exchange session.answered before)
    intro later stays
    split
    · exact stays
    · exact kept.admits later stays
    · exact kept.ends later _ (by simp) stays
  · rename_i violation exchange judged
    apply kept.writeThen (kept.informs session exchange session.answered before)
    intro later stays
    exact kept.ends later _ (by simp [Fault.ofViolation]) stays

theorem Kept.answerCommand
    (kept : Kept holds)
    (before : holds session)
    (services : Services)
    (frame : Frame) :
    holds (session.answerCommand services frame) := by
  rw [Session.answerCommand]
  apply kept.writeThen (kept.informs session _ _ before)
  intro later stays
  split
  · exact stays
  · exact kept.ends later _ (by simp) stays

/-- A property that no move of a server breaks holds of every session that comes about. -/
theorem Kept.reached
    {limit : Nat}
    {settings : Settings}
    {ids : ConnectionIds}
    {scramble : Scramble}
    (kept : Kept holds)
    (begins : ∀ exchange, holds { settings, exchange })
    (carries : ∀ session transport, holds session → holds (session.carrying transport))
    (finishes : ∀ session result, session.nextMove = .finish result → holds session →
      holds (session.finish result))
    (reached : Reached limit settings ids scramble session) :
    holds session := by
  induction reached with
  | greets =>
      rw [start_eq]
      exact kept.write (begins _) _
  | takesIn event goesOn before holding =>
      rw [absorb_carrying]
      exact carries _ _ holding
  | @answersLogin session frame rest services moves short before holding =>
      exact kept.answerLogin (carries session { session.transport with unread := rest } holding)
        services frame
  | @answersCommand session frame rest services moves short before holding =>
      exact kept.answerCommand (carries session { session.transport with unread := rest } holding)
        services frame
  | @finishes session result moves before holding => exact finishes session result moves holding

end Kept

end SqlGate.Session
