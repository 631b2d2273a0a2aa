import SqlGate.Proofs.Session.Pace
import SqlGate.Proofs.Wire.Framing

/-!
# Sessions that are stopped

A server that is to stop leaves its logins alone and ends a session between two commands,
whichever it hears of first where a command waits too. Beside the session that nobody stops,
a stopped session keeps in step, and then has ended well while the other goes on with
further commands.
-/

namespace SqlGate

set_option autoImplicit false

def Command.serve (host : String) :
    Backend → List (Services × Frame) → List Outbound × Backend
  | backend, [] => ([], backend)
  | backend, (services, frame) :: rest =>
      let response := respond services host frame.sequence frame.payload backend
      let later := serve host response.backend rest
      (response.reply.toList ++ later.1, later.2)

theorem Command.serve_append
    (host : String)
    (backend : Backend)
    (earlier later : List (Services × Frame)) :
    serve host backend (earlier ++ later) =
      ((serve host backend earlier).1 ++ (serve host (serve host backend earlier).2 later).1,
        (serve host (serve host backend earlier).2 later).2) := by
  induction earlier generalizing backend with
  | nil => simp [serve]
  | cons command rest ih => simp [serve, ih]

namespace Session

def Occurrence.isStop : Occurrence → Bool
  | .arrives .stop => true
  | _ => false

def unstopped (schedule : List Occurrence) : List Occurrence :=
  schedule.filter fun occurrence => !occurrence.isStop

/-- A reply did not fit its frame, and the session ended over it. -/
def Overflowed (session : Session) : Prop :=
  ∃ length, session.result? = some (.error (.ofWire (.oversized length)))

structure Serves (commands : List (Services × Frame)) (before after : Session) : Prop where
  settings : after.settings = before.settings
  answers : after.answered = before.answered + commands.length
  backend : after.exchange =
    { before.exchange with
      backend := (Command.serve before.settings.host before.exchange.backend commands).2 }
  sends : after.written.toList = before.written.toList ++
    (Command.serve before.settings.host before.exchange.backend commands).1.map
      (·.frame before.exchange.handshake.capabilities)

def Deaf (session : Session) : Prop := session.isEnded = true ∨ session.inputEnded = true

/-- The commands were read off what was unread and what was taken in since. Only a session that
has become deaf loses what arrives. -/
structure Takes
    (arrived : Bytes)
    (commands : List (Services × Frame))
    (before after : Session) :
    Prop where
  splits : ∃ kept lost,
    arrived = kept ++ lost ∧
      before.unread ++ kept = (commands.map Prod.snd).flatMap Frame.bytes ++ after.unread ∧
      (lost = [] ∨ Deaf after) ∧
      (Deaf before → kept = [])
  staysDeaf : Deaf before → Deaf after

/-! ## A session that serves commands -/

section Serves

variable {before middle after : Session}

theorem Serves.refl (session : Session) : Serves [] session session :=
  ⟨rfl, rfl, rfl, by simp [Command.serve]⟩

theorem Serves.trans
    {earlier later : List (Services × Frame)}
    (first : Serves earlier before middle)
    (second : Serves later middle after) :
    Serves (earlier ++ later) before after where
  settings := second.settings.trans first.settings
  answers := by
    rw [second.answers, first.answers, List.length_append, Nat.add_assoc]
  backend := by
    rw [second.backend, first.backend, first.settings, Command.serve_append]
  sends := by
    rw [second.sends, first.sends, first.backend, first.settings, Command.serve_append]
    simp

/-- What a session serves does not depend on its transport, nor on how it ends. -/
theorem Serves.of_same
    {commands : List (Services × Frame)}
    {other : Session}
    (serves : Serves commands before after)
    (settings : other.settings = before.settings)
    (answered : other.answered = before.answered)
    (exchange : other.exchange = before.exchange)
    (written : other.written = before.written) :
    Serves commands other after := by
  constructor
  · rw [settings, serves.settings]
  · rw [answered, serves.answers]
  · rw [settings, exchange, serves.backend]
  · rw [settings, exchange, written, serves.sends]

end Serves

section Takes

variable {before middle after : Session}

theorem Takes.of_unread
    {commands : List (Services × Frame)}
    (unread : before.unread = (commands.map Prod.snd).flatMap Frame.bytes ++ after.unread)
    (staysDeaf : Deaf before → Deaf after) :
    Takes [] commands before after :=
  ⟨⟨[], [], rfl, by rw [List.append_nil, unread], .inl rfl, fun _ => rfl⟩, staysDeaf⟩

theorem Takes.of_ended {session : Session} (ended : session.isEnded = true) (chunk : Bytes) :
    Takes chunk [] session session :=
  ⟨⟨[], chunk, rfl, by simp, .inr (.inl ended), fun _ => rfl⟩, id⟩

theorem Takes.trans
    {first second : Bytes}
    {earlier later : List (Services × Frame)}
    (one : Takes first earlier before middle)
    (two : Takes second later middle after) :
    Takes (first ++ second) (earlier ++ later) before after where
  splits := by
    obtain ⟨kept, lost, rfl, splits, loses, deaf⟩ := one.splits
    obtain ⟨keptToo, lostToo, rfl, splitsToo, losesToo, deafToo⟩ := two.splits
    rcases loses with rfl | deafened
    · refine ⟨kept ++ keptToo, lostToo, by simp, ?_, losesToo, ?_⟩
      · rw [← List.append_assoc, splits, List.append_assoc, splitsToo]
        simp
      · intro unheard
        rw [deaf unheard, deafToo (one.staysDeaf unheard), List.append_nil]
    · have nothing := deafToo deafened
      subst nothing
      refine ⟨kept, lost ++ lostToo, by simp, ?_, .inr (two.staysDeaf deafened), deaf⟩
      rw [List.append_nil] at splitsToo
      rw [splits, splitsToo]
      simp
  staysDeaf unheard := two.staysDeaf (one.staysDeaf unheard)

theorem Takes.isPrefix
    {arrived : Bytes}
    {commands : List (Services × Frame)}
    (takes : Takes arrived commands before after) :
    (commands.map Prod.snd).flatMap Frame.bytes <+: before.unread ++ arrived := by
  obtain ⟨kept, lost, rfl, splits, _⟩ := takes.splits
  exact ⟨after.unread ++ lost, by rw [← List.append_assoc, ← splits, List.append_assoc]⟩

theorem takes_absorb
    {session : Session}
    (goesOn : session.isEnded = false)
    (event : Event) :
    Takes event.chunk [] session (session.absorb event) := by
  cases event with
  | bytes chunk =>
      rw [absorb]
      split
      · rename_i closed
        exact ⟨⟨[], chunk, rfl, by simp, .inr (.inr closed), fun _ => rfl⟩, id⟩
      · rename_i opened
        have hears : ¬ Deaf session := by simp [Deaf, goesOn, opened]
        exact ⟨⟨chunk, [], by simp [Event.chunk], by simp, .inl rfl, fun deaf => absurd deaf hears⟩,
          fun deaf => absurd deaf hears⟩
  | inputEnd => exact .of_unread (by simp [absorb]) fun _ => .inr rfl
  | elapse millis => exact .of_unread (by simp [absorb]) id
  | stop => exact .of_unread (by simp [absorb]) id

end Takes

section Serving

variable {session : Session}

theorem serves_finish (session : Session) (result : Except Fault Unit) :
    Serves [] session (session.finish result) :=
  ⟨rfl, rfl, rfl, by simp [Command.serve, finish]⟩

/-- A command is answered whole, or its reply does not fit. -/
theorem answer_serving
    (services : Services)
    (frame : Frame)
    (stage : session.stage = .commands) :
    (session.answer services frame).stage ≠ .login ∧
      (Overflowed (session.answer services frame) ∨
        Serves [(services, frame)] session (session.answer services frame)) := by
  rw [answer_commands services stage]
  cases leaves : frame.isFarewell with
  | true =>
      rw [answerCommand_farewell services stage leaves]
      have responds := Command.respond_farewell services session.settings.host
        session.exchange.backend leaves
      exact ⟨Stage.noConfusion, .inr ⟨rfl, rfl, by simp [Command.serve, responds],
        by simp [Command.serve, responds]⟩⟩
  | false =>
      obtain ⟨packet, changed, responds⟩ := Command.respond_other services
        session.settings.host session.exchange.backend leaves
      rw [answerCommand_other stage responds]
      split
      · constructor
        · simp [wrote, stage]
        · exact .inr ⟨rfl, rfl, by simp [Command.serve, responds, wrote],
            by simp [Command.serve, responds, wrote]⟩
      · exact ⟨Stage.noConfusion, .inl ⟨_, rfl⟩⟩

theorem occur_serving (serving : session.stage ≠ .login) (occurrence : Occurrence) :
    (session.occur occurrence).stage ≠ .login ∧
      (Overflowed (session.occur occurrence) ∨
        ∃ commands, Serves commands session (session.occur occurrence) ∧
          Takes (arrived [occurrence]) commands session (session.occur occurrence)) := by
  cases occurrence with
  | arrives event =>
      rw [occur, arrived_arrives, arrived_nil, List.append_nil]
      split
      · rename_i ended
        exact ⟨serving, .inr ⟨[], .refl session, .of_ended ended _⟩⟩
      · rename_i goesOn
        have takes := takes_absorb (eq_false_of_ne_true goesOn) event
        rw [absorb_carrying] at takes ⊢
        exact ⟨serving, .inr ⟨[], ⟨rfl, rfl, rfl, by simp [Command.serve, carrying]⟩, takes⟩⟩
  | turn services =>
      rw [occur, arrived_turn, arrived_nil]
      have turns := turns_act services session
      generalize session.act services = after at turns ⊢
      cases turns with
      | waits moves => exact ⟨serving, .inr ⟨[], .refl session, .of_unread (by simp) id⟩⟩
      | finishes result moves =>
          exact ⟨Stage.noConfusion, .inr ⟨[], serves_finish session result,
            .of_unread (by simp [finish]) fun _ => .inl rfl⟩⟩
      | answers frame rest moves =>
          have goesOn := isEnded_of_answers moves
          rcases moves with login | command
          · exact absurd (stage_of_answerLogin login) serving
          have split := (Frame.fits_of_read? (read?_of_nextMove (.inr command))).2
          obtain ⟨stays, overflows | serves⟩ :=
            answer_serving services frame (stage_of_answerCommand command)
          · exact ⟨stays, .inl overflows⟩
          · refine ⟨stays, .inr ⟨[(services, frame)],
              ⟨serves.settings, serves.answers, serves.backend, serves.sends⟩,
              .of_unread (by simp [split, carrying]) ?_⟩⟩
            rintro (ended | closed)
            · rw [goesOn] at ended
              cases ended
            · exact .inr closed

end Serving

section Follow

variable {session : Session}

theorem isEnded_of_overflowed (overflowed : Overflowed session) : session.isEnded = true := by
  obtain ⟨length, result⟩ := overflowed
  unfold result? at result
  split at result
  · rename_i stage
    rw [isEnded, stage]
  · cases result

theorem follow_serving
    (serving : session.stage ≠ .login)
    (schedule : List Occurrence)
    (kept : ¬ Overflowed (session.follow schedule)) :
    (session.follow schedule).stage ≠ .login ∧
      ∃ commands, Serves commands session (session.follow schedule) ∧
        Takes (arrived schedule) commands session (session.follow schedule) := by
  induction schedule generalizing session with
  | nil => exact ⟨serving, [], .refl session, .of_unread (by simp) id⟩
  | cons occurrence rest ih =>
      obtain ⟨stays, overflows | ⟨command, serves, takes⟩⟩ := occur_serving serving occurrence
      · rw [follow_cons, follow_ended (isEnded_of_overflowed overflows)] at kept
        exact absurd overflows kept
      · obtain ⟨last, commands, servesOn, takesOn⟩ := ih stays kept
        have bytes : arrived (occurrence :: rest) = arrived [occurrence] ++ arrived rest :=
          arrived_append [occurrence] rest
        rw [bytes]
        exact ⟨last, command ++ commands, serves.trans servesOn, takes.trans takesOn⟩

end Follow

/-! ## Beside the session that nobody stops -/

def unstopping (session : Session) : Session :=
  session.carrying { session.transport with stopping := false }

/-- A session beside the one that nobody stops. -/
inductive Keeps (stopped steady : Session) : Prop where
  | pace (same : steady = stopped.unstopping)
  /-- The session has been stopped, and the other one has served more commands. -/
  | behind
      (commands : List (Services × Frame))
      (stage : stopped.stage = .ended (.ok ()))
      (phase : stopped.exchange.handshake.phase = .authenticated)
      (serving : steady.stage ≠ .login)
      (serves : Serves commands stopped steady)

section Keeps

variable {session stopped steady : Session}

/-- A wish to stop changes nothing but how a session goes on between two commands. -/
theorem nextMove_unstopping (session : Session) :
    session.unstopping.nextMove = session.nextMove ∨
      session.stage = .commands ∧ session.nextMove = .finish (.ok ()) := by
  have stage : session.unstopping.stage = session.stage := rfl
  have unread : session.unstopping.unread = session.unread := rfl
  have inputEnded : session.unstopping.inputEnded = session.inputEnded := rfl
  have overdue : session.unstopping.isOverdue = session.isOverdue := rfl
  have settings : session.unstopping.settings = session.settings := rfl
  have answered : session.unstopping.answered = session.answered := rfl
  have steady : session.unstopping.stopping = false := rfl
  cases stopping : session.stopping with
  | false =>
      have same : session.unstopping = session := by
        rw [unstopping, ← stopping]
        rfl
      rw [same]
      exact .inl rfl
  | true =>
      unfold nextMove
      rw [stage, unread, inputEnded, overdue, settings, answered, steady]
      cases staged : session.stage with
      | login => exact .inl rfl
      | ended result => exact .inl rfl
      | commands =>
          simp only [stopping, Bool.true_and, Bool.false_and, Bool.or_true, Bool.or_false,
            Bool.false_eq_true, if_false, if_true]
          by_cases first : session.settings.stopsFirst session.answered = true
          · simp [first]
          · simp only [first, Bool.false_eq_true, if_false]
            cases Frame.read? session.unread with
            | some read => exact .inl rfl
            | none => simp

theorem act_unstopping
    (services : Services)
    (moves : session.unstopping.nextMove = session.nextMove) :
    session.unstopping.act services = (session.act services).unstopping := by
  have turns := turns_act services session
  generalize acts : session.act services = after at turns ⊢
  cases turns with
  | waits waits => exact act_of_wait services (moves.trans waits)
  | finishes result finishes => exact act_of_finish services (moves.trans finishes)
  | answers frame rest answers =>
      rw [← moves] at answers
      rw [act_of_answers services answers, unstopping, answer_carrying]
      rfl

end Keeps

/-! ## Logins and ends -/

/-- What the stage of a session tells of its handshake. Once a client is admitted, only a reply
that does not fit can end the session badly. -/
structure Staged (session : Session) : Prop where
  login : session.stage = .login → session.exchange.handshake.phase ≠ .authenticated
  commands : session.stage = .commands → session.exchange.handshake.phase = .authenticated
  ended : ∀ fault, session.result? = some (.error fault) →
    session.exchange.handshake.phase = .authenticated → Overflowed session

section Staged

variable {session : Session}

theorem staged_overflow (session : Session) (length : Nat) :
    Staged (session.finish (.error (.ofWire (.oversized length)))) where
  login := Stage.noConfusion
  commands := Stage.noConfusion
  ended _ _ _ := ⟨length, rfl⟩

theorem staged_well (session : Session) : Staged (session.finish (.ok ())) where
  login := Stage.noConfusion
  commands := Stage.noConfusion
  ended _ same := by cases same

theorem not_authenticated_of_awaits
    {handshake : Handshake}
    (awaits : Handshake.AwaitsPacket handshake) :
    handshake.phase ≠ .authenticated := by
  intro phase
  rcases awaits.waits with fast | switched
  · cases fast.symm.trans phase
  · cases switched.symm.trans phase

theorem staged_login
    (stage : session.stage = .login)
    (waits : session.exchange.handshake.phase ≠ .authenticated) :
    Staged session where
  login _ := waits
  commands serves := by
    rw [stage] at serves
    cases serves
  ended _ same := by
    rw [result?, stage] at same
    cases same

theorem staged_commands
    (stage : session.stage = .commands)
    (admitted : session.exchange.handshake.phase = .authenticated) :
    Staged session where
  login waits := by
    rw [stage] at waits
    cases waits
  commands _ := admitted
  ended _ same := by
    rw [result?, stage] at same
    cases same

theorem staged_reached
    {limit : Nat}
    {settings : Settings}
    {ids : ConnectionIds}
    {scramble : Scramble}
    (reached : Reached limit settings ids scramble session) :
    Staged session := by
  induction reached with
  | greets =>
      obtain ⟨outbound, sent⟩ : ∃ outbound, (greeting settings ids scramble).sent = [outbound] :=
        ⟨_, rfl⟩
      rw [start_eq, sent, write_single]
      split
      · exact staged_login rfl Handshake.Phase.noConfusion
      · exact staged_overflow _ _
  | takesIn event goesOn before staged =>
      rw [absorb_carrying]
      exact ⟨staged.login, staged.commands, staged.ended⟩
  | @answersLogin session frame rest services moves short before staged =>
      have stage := stage_of_answerLogin moves
      have awaits : Handshake.AwaitsPacket { session.exchange with sent := [] }.handshake :=
        (lawful_reached before).awaits stage
      obtain ⟨outcome, reply, after, accepts⟩ :=
        Handshake.accepts_of_awaits awaits services frame
      rw [@answerLogin_accepted services { session with unread := rest } frame outcome reply after
        stage accepts]
      split
      · cases outcome with
        | switchRequested =>
            refine staged_login stage ?_
            exact not_authenticated_of_awaits
              (Handshake.awaitsPacket_of_methodMismatch accepts.standing accepts.phase)
        | authenticated => exact staged_commands rfl accepts.phase
        | rejected code => exact staged_well _
      · exact staged_overflow _ _
  | @answersCommand session frame rest services moves short before staged =>
      have stage := stage_of_answerCommand moves
      let reading : Session := { session with unread := rest }
      cases leaves : frame.isFarewell with
      | true =>
          rw [@answerCommand_farewell services reading frame stage leaves]
          exact staged_well { reading with answered := reading.answered + 1 }
      | false =>
          obtain ⟨packet, changed, responds⟩ := Command.respond_other services
            session.settings.host session.exchange.backend leaves
          rw [@answerCommand_other services reading frame _ changed stage responds]
          split
          · exact staged_commands stage (staged.commands stage)
          · exact staged_overflow _ _
  | @finishes session result moves before staged =>
      cases result with
      | ok none => exact staged_well _
      | error fault =>
          have stage : session.stage = .login := by
            cases finishes_of_nextMove moves with
            | closed stage => exact stage
            | overdue stage => exact stage
          have waits := staged.login stage
          exact ⟨Stage.noConfusion, Stage.noConfusion, fun _ _ admitted => absurd admitted waits⟩

end Staged

/-! ## In step, or behind -/

section Unstopped

variable {session : Session}

theorem unstopped_cons (occurrence : Occurrence) (schedule : List Occurrence) :
    unstopped (occurrence :: schedule) = unstopped [occurrence] ++ unstopped schedule :=
  List.filter_append [occurrence] schedule

theorem unstopped_of_other {occurrence : Occurrence} (other : occurrence.isStop = false) :
    unstopped [occurrence] = [occurrence] := by
  simp [unstopped, other]

theorem unstopping_of_fresh (fresh : session.transport = {}) : session.unstopping = session := by
  have steady : session.stopping = false := congrArg Transport.stopping fresh
  rw [unstopping, ← steady]
  rfl

/-- The wish to stop itself is nothing to the session that nobody stops. -/
theorem unstopping_occur_stop (session : Session) :
    (session.occur (.arrives .stop)).unstopping = session.unstopping := by
  rw [occur]
  split <;> rfl

theorem unstopping_occur_arrives
    {event : Event}
    (other : Occurrence.isStop (.arrives event) = false) :
    session.unstopping.occur (.arrives event) = (session.occur (.arrives event)).unstopping := by
  have ended : session.unstopping.isEnded = session.isEnded := rfl
  have absorbs : session.unstopping.absorb event = (session.absorb event).unstopping := by
    cases event with
    | bytes chunk =>
        have inputEnded : session.unstopping.inputEnded = session.inputEnded := rfl
        rw [absorb, absorb, inputEnded]
        split <;> rfl
    | inputEnd => rfl
    | elapse millis => rfl
    | stop => cases other
  rw [occur, occur, ended, absorbs]
  split <;> rfl

end Unstopped

section Keeps

variable {stopped steady : Session}

/-- Two sessions side by side stay so, whatever happens. The first that hears of the wish to
stop may end before a command that the other one serves. -/
theorem keeps_occur
    (keeps : Keeps stopped steady)
    (staged : Staged stopped)
    (occurrence : Occurrence)
    (kept : ¬ Overflowed (steady.follow (unstopped [occurrence]))) :
    Keeps (stopped.occur occurrence) (steady.follow (unstopped [occurrence])) := by
  cases keeps with
  | behind commands stage phase serving serves =>
      have ended : stopped.isEnded = true := by rw [isEnded, stage]
      obtain ⟨last, more, servesOn, _⟩ := follow_serving serving _ kept
      rw [occur_ended ended]
      exact .behind (commands ++ more) stage phase last (serves.trans servesOn)
  | pace same =>
      subst same
      cases stops : occurrence.isStop with
      | true =>
          cases occurrence with
          | arrives event =>
              cases event with
              | stop => exact .pace (unstopping_occur_stop stopped).symm
              | _ => cases stops
          | turn services => cases stops
      | false =>
          rw [unstopped_of_other stops] at kept ⊢
          cases occurrence with
          | arrives event => exact .pace (unstopping_occur_arrives stops)
          | turn services =>
              rcases nextMove_unstopping stopped with moves | ⟨stage, finishes⟩
              · exact .pace (act_unstopping services moves)
              · have serving : stopped.unstopping.stage ≠ .login := by
                  intro login
                  cases stage.symm.trans login
                obtain ⟨last, commands, serves, _⟩ := follow_serving serving _ kept
                rw [occur, act_of_finish services finishes]
                exact .behind commands rfl (staged.commands stage) last
                  (serves.of_same rfl rfl rfl rfl)

theorem keeps_follow
    {settings : Settings}
    {ids : ConnectionIds}
    {scramble : Scramble}
    (keeps : Keeps stopped steady)
    (reached : Reached Frame.maxPayload settings ids scramble stopped)
    (schedule : List Occurrence)
    (kept : ¬ Overflowed (steady.follow (unstopped schedule))) :
    Keeps (stopped.follow schedule) (steady.follow (unstopped schedule)) := by
  induction schedule generalizing stopped steady with
  | nil => exact keeps
  | cons occurrence rest ih =>
      rw [unstopped_cons, follow_append] at kept ⊢
      -- A session that overflows stays as it is, so it does not do so before the end.
      have keptFirst : ¬ Overflowed (steady.follow (unstopped [occurrence])) := by
        intro overflowed
        rw [follow_ended (isEnded_of_overflowed overflowed)] at kept
        exact kept overflowed
      have step := keeps_occur keeps (staged_reached reached) occurrence keptFirst
      exact ih step (reached_occur reached occurrence) kept

end Keeps

/-! ## A wish to stop is heard -/

section Stops

variable {session : Session}

def Stops (session : Session) : Prop := session.isEnded = true ∨ session.stopping = true

theorem stops_occur (stops : Stops session) (occurrence : Occurrence) :
    Stops (session.occur occurrence) := by
  rcases stops with ended | stopping
  · rw [occur_ended ended]
    exact .inl ended
  · cases occurrence with
    | arrives event =>
        rw [occur]
        split
        · exact .inr stopping
        · cases event with
          | bytes chunk =>
              rw [absorb]
              split <;> exact .inr stopping
          | inputEnd => exact .inr stopping
          | elapse millis => exact .inr stopping
          | stop => exact .inr rfl
    | turn services =>
        rw [occur]
        have turns := turns_act services session
        generalize session.act services = after at turns ⊢
        cases turns with
        | waits moves => exact .inr stopping
        | finishes result moves => exact .inl rfl
        | answers frame rest moves => exact .inr stopping

theorem stops_follow (stops : Stops session) (schedule : List Occurrence) :
    Stops (session.follow schedule) := by
  induction schedule generalizing session with
  | nil => exact stops
  | cons occurrence rest ih => exact ih (stops_occur stops occurrence)

theorem stops_of_member
    {schedule : List Occurrence}
    (member : .arrives .stop ∈ schedule) :
    Stops (session.follow schedule) := by
  obtain ⟨before, after, rfl⟩ := List.append_of_mem member
  rw [follow_append, follow_cons]
  apply stops_follow
  rw [occur]
  split
  · rename_i ended
    exact .inl ended
  · exact .inr rfl

theorem isEnded_of_stops
    (serving : session.stage ≠ .login)
    (stops : Stops session)
    (idle : session.nextMove = .wait) :
    session.isEnded = true := by
  by_contra notEnded
  have goesOn := eq_false_of_ne_true notEnded
  have steady := (idle_of_wait goesOn idle).steady
  rcases stops with ended | stopping
  · exact notEnded ended
  · cases stage : session.stage with
    | login => exact serving stage
    | commands =>
        rw [steady stage] at stopping
        cases stopping
    | ended result =>
        rw [isEnded, stage] at goesOn
        cases goesOn

end Stops

/-! ## Whole frames -/

def Framed (session : Session) : Prop :=
  ∀ frame ∈ session.written.toList, frame.payload.length ≤ Frame.maxPayload

section Framed

variable {session : Session}

theorem framed_reached
    {limit : Nat}
    {settings : Settings}
    {ids : ConnectionIds}
    {scramble : Scramble}
    (reached : Reached limit settings ids scramble session) :
    Framed session := by
  have kept : Kept Framed := by
    constructor
    · intro session frame fits framed other member
      rw [Array.toList_push, List.mem_append, List.mem_singleton] at member
      rcases member with earlier | rfl
      · exact framed other earlier
      · exact fits
    · exact fun _ _ _ framed => framed
    · exact fun _ framed => framed
    · exact fun _ _ _ framed => framed
  apply kept.reached _ _ _ reached
  · intro exchange frame member
    cases member
  · exact fun _ _ framed => framed
  · exact fun _ _ _ framed => framed

end Framed

/-! ## What is left of a session -/

structure Shortens (stopped steady : Session) : Prop where
  output : stopped.output <+: steady.output
  /-- The output ends with a packet. -/
  whole : Frame.frames stopped.output = stopped.written.toList ∧ Frame.left stopped.output = []
  handshake : stopped.exchange.handshake = steady.exchange.handshake
  logins : stopped.exchange.asked = steady.exchange.asked
  waits : stopped.stage = .login ↔ steady.stage = .login
  /-- The other session does nothing more than to serve further commands. -/
  further : ∃ commands, Serves commands stopped steady
  /-- All that was sent before the first command is sent. -/
  replies : steady.answered = 0 → stopped.written = steady.written
  /-- Nothing at all becomes of the wish to stop as long as the client is not admitted. -/
  handshakes : stopped.exchange.handshake.phase ≠ .authenticated → steady = stopped.unstopping

section Shortens

variable {stopped steady : Session}

theorem whole_of_framed {session : Session} (framed : Framed session) :
    Frame.frames session.output = session.written.toList ∧ Frame.left session.output = [] := by
  have read := Frame.frames_append_of_fits framed []
  rw [List.append_nil] at read
  have quiet : Frame.read? [] = none := rfl
  rw [output, read.1, read.2, Frame.frames_of_none quiet, Frame.left_of_none quiet]
  exact ⟨List.append_nil _, rfl⟩

theorem Keeps.serves (keeps : Keeps stopped steady) :
    ∃ commands, Serves commands stopped steady := by
  cases keeps with
  | pace same =>
      subst same
      exact ⟨[], rfl, rfl, rfl, by simp [Command.serve, unstopping, carrying]⟩
  | behind commands stage phase serving serves => exact ⟨commands, serves⟩

theorem Serves.isPrefix
    {commands : List (Services × Frame)}
    (serves : Serves commands stopped steady) :
    stopped.output <+: steady.output := by
  rw [output, output, serves.sends, List.flatMap_append]
  exact List.prefix_append _ _

theorem Serves.written_eq
    {commands : List (Services × Frame)}
    (serves : Serves commands stopped steady)
    (none : steady.answered = 0) :
    stopped.written = steady.written := by
  have answers := serves.answers
  have nothing : commands = [] := List.eq_nil_of_length_eq_zero (by omega)
  subst nothing
  have sends := serves.sends
  simp only [Command.serve, List.map_nil, List.append_nil] at sends
  exact (Array.toList_inj.mp sends).symm

theorem shortens_of_keeps (keeps : Keeps stopped steady) (framed : Framed stopped) :
    Shortens stopped steady := by
  obtain ⟨commands, serves⟩ := keeps.serves
  have exchange := serves.backend
  refine ⟨serves.isPrefix, whole_of_framed framed, ?_, ?_, ?_, ⟨commands, serves⟩,
    serves.written_eq, ?_⟩
  · rw [exchange]
  · rw [exchange]
  · cases keeps with
    | pace same => rw [same, unstopping, carrying]
    | behind commands stage phase serving =>
        rw [stage]
        exact ⟨Stage.noConfusion, fun login => absurd login serving⟩
  · intro refused
    cases keeps with
    | pace same => exact same
    | behind commands stage phase => exact absurd phase refused

theorem Keeps.overflowed (keeps : Keeps stopped steady) (overflowed : Overflowed stopped) :
    Overflowed steady := by
  cases keeps with
  | pace same =>
      rw [same]
      exact overflowed
  | behind commands stage =>
      obtain ⟨length, ended⟩ := overflowed
      rw [result?, stage] at ended
      cases ended

end Shortens

section Admitted

variable {settings : Settings}
variable {ids : ConnectionIds}
variable {scramble : Scramble}
variable {session : Session}

/-- Once a client is admitted, its session ends well or over a reply that does not fit. -/
theorem result_of_admitted
    {result : Except Fault Unit}
    (reached : Reached Frame.maxPayload settings ids scramble session)
    (admitted : session.exchange.handshake.phase = .authenticated)
    (ended : session.result? = some result) :
    Overflowed session ∨ result = .ok () := by
  cases result with
  | ok none => exact .inr rfl
  | error fault => exact .inl ((staged_reached reached).ended fault ended admitted)

/-- A session with an admitted client that is to stop ends when its server has had its turns. -/
theorem ends_of_stops
    (reached : Reached Frame.maxPayload settings ids scramble session)
    (admitted : session.exchange.handshake.phase = .authenticated)
    (stops : Stops session)
    (services : Services) :
    Overflowed (run services session) ∨ (run services session).result? = some (.ok ()) := by
  by_cases overflowed : Overflowed (run services session)
  · exact .inl overflowed
  have serving : session.stage ≠ .login := fun login => (staged_reached reached).login login admitted
  let turns : List Occurrence := List.replicate (session.unread.length + 1) (.turn services)
  have runs : session.follow turns = run services session :=
    follow_turns services (Nat.lt_succ_self _)
  rw [← runs] at overflowed ⊢
  obtain ⟨last, commands, serves, _⟩ := follow_serving serving turns overflowed
  have idle : (session.follow turns).nextMove = .wait := by
    rw [runs]
    exact nextMove_run services session
  have ended := isEnded_of_stops last (stops_follow stops turns) idle
  obtain ⟨result, stage⟩ := stage_of_ended ended
  have ends : (session.follow turns).result? = some result := by rw [result?, stage]
  have admittedStill : (session.follow turns).exchange.handshake.phase = .authenticated := by
    rw [serves.backend]
    exact admitted
  rcases result_of_admitted (reached_follow reached turns) admittedStill ends with overflows | well
  · exact .inl overflows
  · rw [ends, well]
    exact .inr rfl

end Admitted

/-- A wish to stop shortens a session at the end of a packet, whenever the server hears of it,
however late the server takes its turns and whichever it picks where a command waits too.
The login goes its way, and after it the session ends well. Of the commands behind the login,
some have been answered, whose replies are written and whose effects are complete; the others
have had none. -/
theorem stop_only_shortens_a_session
    (settings : Settings)
    (ids : ConnectionIds)
    (scramble : Scramble)
    (schedule : List Occurrence)
    (fits : ¬ Overflowed ((start settings ids scramble).1.follow (unstopped schedule))) :
    let start := (start settings ids scramble).1
    let stopped := start.follow schedule
    Shortens stopped (start.follow (unstopped schedule)) ∧
      (stopped.exchange.handshake.phase = .authenticated →
        (∀ result, stopped.result? = some result → result = .ok ()) ∧
          (.arrives .stop ∈ schedule →
            ∀ services, Overflowed (run services stopped) ∨
              (run services stopped).result? = some (.ok ()))) ∧
      ∀ before after, schedule = before ++ after → (start.follow before).stage = .commands →
        ∃ commands,
          Serves commands (start.follow before) stopped ∧
            (commands.map Prod.snd).flatMap Frame.bytes <+:
              (start.follow before).unread ++ arrived after := by
  intro start stopped
  have greeted : Reached Frame.maxPayload settings ids scramble start := .greets
  have fresh : start.transport = {} := (start_fresh settings ids scramble).1
  have keeps := keeps_follow (.pace (unstopping_of_fresh fresh).symm) greeted schedule fits
  have reached : Reached Frame.maxPayload settings ids scramble stopped :=
    reached_follow greeted schedule
  have kept : ¬ Overflowed stopped := fun overflowed => fits (keeps.overflowed overflowed)
  refine ⟨shortens_of_keeps keeps (framed_reached reached), ?_, ?_⟩
  · intro admitted
    constructor
    · intro result ended
      rcases result_of_admitted reached admitted ended with overflowed | well
      · exact absurd overflowed kept
      · exact well
    · intro member services
      exact ends_of_stops reached admitted (stops_of_member member) services
  · intro before after split commands
    have serving : (start.follow before).stage ≠ .login := by
      intro login
      cases commands.symm.trans login
    have whole : stopped = (start.follow before).follow after := by
      rw [← follow_append, ← split]
    rw [whole] at kept ⊢
    obtain ⟨_, served, serves, takes⟩ := follow_serving serving after kept
    exact ⟨served, serves, takes.isPrefix⟩

/-- The server hears of the wish to stop behind a login and two pings. It has answered the first
when it stops, and leaves the second. -/
theorem second_ping_is_left_unanswered :
    let ping : Frame := ⟨0, [0x0E]⟩
    let settings : Settings := { stopsFirst := fun answered => answered == 1 }
    let schedule : List Occurrence :=
      [.arrives (.bytes (rootLogin.bytes ++ ping.bytes ++ ping.bytes)), .arrives .stop,
        .turn rootServices, .turn rootServices, .turn rootServices]
    let start := (start settings {} (FixedBytes.zero 20)).1
    let stopped := start.follow schedule
    ¬ Overflowed (start.follow (unstopped schedule)) ∧
      stopped.output <+: (start.follow (unstopped schedule)).output ∧
      stopped.result? = some (.ok ()) ∧ stopped.unread = ping.bytes ∧
      (start.follow (unstopped schedule)).answered = 2 := by
  intro ping settings schedule start stopped
  have fits : (start.follow (unstopped schedule)).isEnded = false := by decide +kernel
  have kept : ¬ Overflowed (start.follow (unstopped schedule)) := by
    intro overflowed
    rw [isEnded_of_overflowed overflowed] at fits
    cases fits
  have shortens := (stop_only_shortens_a_session settings {} (FixedBytes.zero 20) schedule kept).1
  have ends : stopped.result? = some (.ok ()) := by decide +kernel
  have leaves : stopped.unread = ping.bytes := by decide +kernel
  have answers : (start.follow (unstopped schedule)).answered = 2 := by decide +kernel
  exact ⟨kept, shortens.output, ends, leaves, answers⟩

end Session

end SqlGate
