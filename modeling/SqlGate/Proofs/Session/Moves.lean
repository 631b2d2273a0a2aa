import SqlGate.Proofs.Session.Refinement

/-!
# The moves of a session

A session takes in events, answers packets and ends, in any order that its server
admits and with whatever services are in force at each step. While it waits for a
login, the handshake behind it is one that a packet of the client is due to, so no
packet meets a handshake that refuses it.
-/

namespace SqlGate

set_option autoImplicit false

namespace Handshake

/-- A challenge was put to the client, and either its login packet is due or, after a
login packet, the answer to a switch request. -/
def AwaitsPacket (handshake : Handshake) : Prop :=
  handshake.challenge.isSome = true ∧
    (handshake.phase = .fastPath ∨
      handshake.phase = .methodMismatch ∧ handshake.attempt.isSome = true)

section AwaitsPacket

variable {handshake : Handshake}

theorem AwaitsPacket.waits (awaits : AwaitsPacket handshake) :
    handshake.phase = .fastPath ∨ handshake.phase = .methodMismatch := by
  rcases awaits.2 with fast | ⟨switched, _⟩
  · exact .inl fast
  · exact .inr switched

theorem AwaitsPacket.standing (awaits : AwaitsPacket handshake) : Standing handshake := by
  rcases awaits.2 with fast | ⟨switched, made⟩
  · rw [Standing, fast]
    exact awaits.1
  · rw [Standing, switched]
    exact ⟨awaits.1, made⟩

theorem awaitsPacket_of_methodMismatch
    (standing : Standing handshake)
    (phase : handshake.phase = .methodMismatch) :
    AwaitsPacket handshake := by
  rw [Standing, phase] at standing
  exact ⟨standing.1, .inr ⟨phase, standing.2⟩⟩

end AwaitsPacket

structure Accepts
    (services : Services)
    (exchange : Exchange)
    (frame : Frame)
    (outcome : Outcome)
    (reply : Outbound)
    (after : Exchange) :
    Prop where
  ran : (receive services frame.sequence frame.payload).run exchange = .ok outcome after
  turn : Turn id exchange (.receive services frame.sequence frame.payload) (.concluded outcome)
    after
  sends : after.sent = exchange.sent ++ [reply]
  phase : after.handshake.phase = outcome.phase
  standing : Standing after.handshake

theorem accepts_of_awaits
    {exchange : Exchange}
    (awaits : AwaitsPacket exchange.handshake)
    (services : Services)
    (frame : Frame) :
    ∃ outcome reply after, Accepts services exchange frame outcome reply after := by
  let call : Call Services := .receive services frame.sequence frame.payload
  have turn := turn_perform id awaits.standing call
  obtain ⟨outcome, reply, concluded, phase, sends⟩ :=
    turn_awaited turn ⟨services, frame.sequence, frame.payload⟩ rfl awaits.waits
  have ran := settle_concluded (Prod.ext concluded rfl)
  have standing := standing_turn awaits.standing turn
  rw [concluded] at turn
  exact ⟨outcome, reply, _, ran, turn, sends, phase, standing⟩

end Handshake

namespace Session

open Handshake

/-- The sessions that can come about from a greeting when no packet of the client is
longer than a limit. The services of each step are those of its moment. -/
inductive Reached
    (limit : Nat)
    (settings : Settings)
    (ids : ConnectionIds)
    (scramble : Scramble) :
    Session → Prop where
  | greets : Reached limit settings ids scramble (start settings ids scramble).1
  | takesIn
      {session : Session}
      (event : Event)
      (goesOn : session.isEnded = false)
      (before : Reached limit settings ids scramble session) :
      Reached limit settings ids scramble (session.absorb event)
  | answersLogin
      {session : Session}
      {frame : Frame}
      {rest : Bytes}
      (services : Services)
      (moves : session.nextMove = .answerLogin frame rest)
      (short : frame.payload.length ≤ limit)
      (before : Reached limit settings ids scramble session) :
      Reached limit settings ids scramble
        ({ session with unread := rest }.answerLogin services frame)
  | answersCommand
      {session : Session}
      {frame : Frame}
      {rest : Bytes}
      (services : Services)
      (moves : session.nextMove = .answerCommand frame rest)
      (short : frame.payload.length ≤ limit)
      (before : Reached limit settings ids scramble session) :
      Reached limit settings ids scramble
        ({ session with unread := rest }.answerCommand services frame)
  | finishes
      {session : Session}
      {result : Except Fault Unit}
      (moves : session.nextMove = .finish result)
      (before : Reached limit settings ids scramble session) :
      Reached limit settings ids scramble (session.finish result)

/-- What a move tells of the stage in which a server makes it. A server ends a login
of its own accord only at the end of the stream or of the time. -/
def Move.Suits (stage : Stage) : Move → Prop
  | .answerLogin _ _ => stage = .login
  | .answerCommand _ _ => stage = .commands
  | .finish (.error fault) => fault = .streamEnded ∨ ∃ cause, fault = .timeout cause
  | .finish (.ok _) => stage = .commands
  | .wait => True

theorem suits_nextMove (session : Session) : session.nextMove.Suits session.stage := by
  unfold nextMove
  cases stage : session.stage with
  | login =>
      dsimp only
      split
      · rfl
      · split
        · exact .inl rfl
        · split
          · exact .inr ⟨_, rfl⟩
          · trivial
  | commands =>
      dsimp only
      split
      · rfl
      · split
        · rfl
        · split
          · rfl
          · trivial
  | ended result => trivial

theorem stage_of_answerLogin
    {session : Session}
    {frame : Frame}
    {rest : Bytes}
    (moves : session.nextMove = .answerLogin frame rest) :
    session.stage = .login := by
  have suits := suits_nextMove session
  rw [moves] at suits
  exact suits

theorem stage_of_answerCommand
    {session : Session}
    {frame : Frame}
    {rest : Bytes}
    (moves : session.nextMove = .answerCommand frame rest) :
    session.stage = .commands := by
  have suits := suits_nextMove session
  rw [moves] at suits
  exact suits

section Write

variable {session : Session}

theorem write_single (session : Session) (outbound : Outbound) :
    let frame := outbound.frame session.exchange.handshake.capabilities
    session.write [outbound] =
      if frame.payload.length ≤ Frame.maxPayload then session.wrote [frame]
      else session.finish (.error (.ofWire (.oversized frame.payload.length))) := by
  intro frame
  by_cases fits : frame.payload.length ≤ Frame.maxPayload
  · rw [if_pos fits]
    apply write_fits
    intro packet member
    rw [List.mem_singleton.mp member]
    exact fits
  · have refused : frame.encode = .error (.oversized frame.payload.length) := if_neg fits
    rw [if_neg fits, write, refused]

theorem writeThen_single
    (goesOn : session.isEnded = false)
    (outbound : Outbound)
    (next : Session → Session) :
    let frame := outbound.frame session.exchange.handshake.capabilities
    session.writeThen [outbound] next =
      if frame.payload.length ≤ Frame.maxPayload then next (session.wrote [frame])
      else session.finish (.error (.ofWire (.oversized frame.payload.length))) := by
  intro frame
  rw [writeThen, write_single session outbound]
  by_cases fits : frame.payload.length ≤ Frame.maxPayload
  · rw [if_pos fits, if_pos fits]
    exact if_neg (ne_true_of_eq_false goesOn)
  · rw [if_neg fits, if_neg fits]
    rfl

end Write

theorem answerLogin_accepted
    {services : Services}
    {session : Session}
    {frame : Frame}
    {outcome : Outcome}
    {reply : Outbound}
    {after : Exchange}
    (stage : session.stage = .login)
    (accepts : Accepts services { session.exchange with sent := [] } frame outcome reply after) :
    let answer := reply.frame after.handshake.capabilities
    session.answerLogin services frame =
      if answer.payload.length ≤ Frame.maxPayload then
        conclude (wrote { session with exchange := after } [answer]) outcome
      else
        finish { session with exchange := after }
          (.error (.ofWire (.oversized answer.payload.length))) := by
  intro answer
  have goesOn : session.isEnded = false := by rw [isEnded, stage]
  let informed : Session := { session with exchange := after }
  rw [answerLogin, accepts.ran]
  dsimp only
  rw [accepts.sends]
  refine (@writeThen_single informed goesOn reply _).trans ?_
  split
  · cases outcome <;> rfl
  · rfl

theorem answerCommand_farewell
    (services : Services)
    {session : Session}
    {frame : Frame}
    (stage : session.stage = .commands)
    (leaves : frame.isFarewell = true) :
    session.answerCommand services frame =
      { session with answered := session.answered + 1, stage := .ended (.ok ()) } := by
  rw [← answer_commands services stage]
  exact answer_farewell services stage leaves

theorem answerCommand_other
    {services : Services}
    {session : Session}
    {frame : Frame}
    {reply : Outbound}
    {changed : Backend}
    (stage : session.stage = .commands)
    (responds : Command.respond services session.settings.host frame.sequence frame.payload
      session.exchange.backend = ⟨.goOn, some reply, changed⟩) :
    let answer := reply.frame session.exchange.handshake.capabilities
    let responded : Session :=
      { session with
        answered := session.answered + 1
        exchange := { session.exchange with backend := changed } }
    session.answerCommand services frame =
      if answer.payload.length ≤ Frame.maxPayload then responded.wrote [answer]
      else responded.finish (.error (.ofWire (.oversized answer.payload.length))) := by
  intro answer responded
  have goesOn : responded.isEnded = false := by
    change session.isEnded = false
    rw [isEnded, stage]
  rw [answerCommand, responds]
  exact @writeThen_single responded goesOn reply _

structure Lawful (session : Session) : Prop where
  awaits : session.stage = .login → AwaitsPacket session.exchange.handshake
  innocent : ∀ cause, session.result? ≠ some (.error (.violation cause))

theorem lawful_finish
    {session : Session}
    {result : Except Fault Unit}
    (innocent : ∀ cause, result ≠ .error (.violation cause)) :
    Lawful (session.finish result) where
  awaits := by
    intro stage
    cases stage
  innocent := by
    intro cause same
    exact innocent cause (Option.some.inj same)

theorem lawful_oversized (session : Session) (length : Nat) :
    Lawful (session.finish (.error (.ofWire (.oversized length)))) := by
  apply lawful_finish
  intro cause same
  cases same

theorem lawful_start (settings : Settings) (ids : ConnectionIds) (scramble : Scramble) :
    Lawful (start settings ids scramble).1 := by
  let greeted : Session := { settings, exchange := greeting settings ids scramble }
  obtain ⟨outbound, sent⟩ : ∃ outbound, (greeting settings ids scramble).sent = [outbound] :=
    ⟨_, rfl⟩
  have written := write_single greeted outbound
  rw [start_eq, sent]
  change Lawful (greeted.write [outbound])
  rw [written]
  split
  · refine ⟨?_, ?_⟩
    · intro stage
      exact ⟨rfl, .inl rfl⟩
    · intro cause same
      cases same
  · exact lawful_oversized greeted _

/-- To take an event in changes nothing but what the answers do not read. -/
theorem absorb_carrying (session : Session) (event : Event) :
    session.absorb event = session.carrying (session.absorb event).transport := by
  cases event with
  | bytes chunk =>
      rw [absorb]
      split <;> rfl
  | inputEnd => rfl
  | elapse millis => rfl
  | stop => rfl

theorem lawful_absorb {session : Session} (lawful : Lawful session) (event : Event) :
    Lawful (session.absorb event) := by
  rw [absorb_carrying]
  exact ⟨lawful.awaits, lawful.innocent⟩

theorem lawful_answerLogin
    {session : Session}
    (lawful : Lawful session)
    (stage : session.stage = .login)
    (services : Services)
    (frame : Frame) :
    Lawful (session.answerLogin services frame) := by
  obtain ⟨outcome, reply, after, accepts⟩ := accepts_of_awaits
    (show AwaitsPacket { session.exchange with sent := [] }.handshake from lawful.awaits stage)
    services frame
  rw [answerLogin_accepted stage accepts]
  split
  · -- Only a client that is asked to switch is waited for again.
    cases outcome with
    | switchRequested =>
        refine ⟨fun _ => awaitsPacket_of_methodMismatch accepts.standing accepts.phase, ?_⟩
        intro cause same
        rw [conclude, result?, wrote, stage] at same
        cases same
    | authenticated =>
        refine ⟨fun serving => Stage.noConfusion serving, ?_⟩
        intro cause same
        cases same
    | rejected code =>
        apply lawful_finish
        intro cause same
        cases same
  · exact lawful_oversized _ _

theorem lawful_answerCommand
    {session : Session}
    (stage : session.stage = .commands)
    (services : Services)
    (frame : Frame) :
    Lawful (session.answerCommand services frame) := by
  cases leaves : frame.isFarewell with
  | true =>
      rw [answerCommand_farewell services stage leaves]
      refine ⟨fun waiting => Stage.noConfusion waiting, ?_⟩
      intro cause same
      cases same
  | false =>
      obtain ⟨packet, changed, responds⟩ := Command.respond_other services
        session.settings.host session.exchange.backend leaves
      rw [answerCommand_other stage responds]
      split
      · refine ⟨?_, ?_⟩
        · intro waiting
          rw [wrote, stage] at waiting
          cases waiting
        · intro cause same
          rw [result?, wrote, stage] at same
          cases same
      · exact lawful_oversized _ _

theorem lawful_reached
    {limit : Nat}
    {settings : Settings}
    {ids : ConnectionIds}
    {scramble : Scramble}
    {session : Session}
    (reached : Reached limit settings ids scramble session) :
    Lawful session := by
  induction reached with
  | greets => exact lawful_start settings ids scramble
  | takesIn event goesOn before lawful => exact lawful_absorb lawful event
  | @answersLogin session frame rest services moves short before lawful =>
      have stage := stage_of_answerLogin moves
      exact @lawful_answerLogin { session with unread := rest } ⟨lawful.awaits, lawful.innocent⟩
        stage services frame
  | @answersCommand session frame rest services moves short before lawful =>
      have stage := stage_of_answerCommand moves
      exact @lawful_answerCommand { session with unread := rest } stage services frame
  | @finishes session result moves before lawful =>
      have suits := suits_nextMove session
      rw [moves] at suits
      apply lawful_finish
      rintro cause rfl
      rcases suits with ended | ⟨_, late⟩
      · cases ended
      · cases late

section Run

variable {settings : Settings}
variable {ids : ConnectionIds}
variable {scramble : Scramble}

/-- No packet of a stream is longer than a frame can announce. -/
theorem reached_run
    (services : Services)
    {session : Session}
    (reached : Reached Frame.maxPayload settings ids scramble session) :
    Reached Frame.maxPayload settings ids scramble (run services session) := by
  fun_induction run services session with
  | case1 session moves => exact reached
  | case2 session result moves => exact .finishes moves reached
  | case3 session frame rest moves ih =>
      have fits := (Frame.fits_of_read? (read?_of_nextMove (.inl moves))).1
      exact ih (.answersLogin services moves fits reached)
  | case4 session frame rest moves ih =>
      have fits := (Frame.fits_of_read? (read?_of_nextMove (.inr moves))).1
      exact ih (.answersCommand services moves fits reached)

theorem reached_handle
    (services : Services)
    {session : Session}
    (event : Event)
    (reached : Reached Frame.maxPayload settings ids scramble session) :
    Reached Frame.maxPayload settings ids scramble (handle services session event) := by
  cases ended : session.isEnded with
  | true =>
      rw [handle_ended services ended]
      exact reached
  | false =>
      rw [handle, if_neg (ne_true_of_eq_false ended)]
      exact reached_run services (.takesIn event ended reached)

theorem reached_events (events : List (Services × Event)) :
    Reached Frame.maxPayload settings ids scramble
      (events.foldl (fun session event => handle event.1 session event.2)
        (start settings ids scramble).1) := by
  induction events using List.reverseRecOn with
  | nil => exact .greets
  | append_singleton earlier event ih =>
      rw [List.foldl_append]
      exact reached_handle event.1 event.2 ih

end Run

/-- Whatever the client sends and whenever it arrives, whatever the time limit and the
services: every packet that the login hands to its handshake is one that the handshake
awaits and answers with one reply, which is all that is written. So no step of the
handshake fails, and no session ends over a packet at the wrong time. -/
theorem every_login_packet_is_awaited
    (settings : Settings)
    (ids : ConnectionIds)
    (scramble : Scramble) :
    let reached := Reached Frame.maxPayload settings ids scramble
    (∃ exchange,
      (greet scramble).run (.fresh ids settings.serverVersion settings.host {}) =
        .ok ids.draw.1 exchange) ∧
    (∀ events : List (Services × Event),
      reached (events.foldl (fun session event => handle event.1 session event.2)
        (start settings ids scramble).1)) ∧
    ∀ session, reached session →
      (∀ cause, session.result? ≠ some (.error (.violation cause))) ∧
      ∀ frame rest, session.nextMove = .answerLogin frame rest →
        AwaitsPacket session.exchange.handshake ∧
        ∀ services, ∃ outcome reply exchange,
          (receive services frame.sequence frame.payload).run
              { session.exchange with sent := [] } = .ok outcome exchange ∧
            exchange.sent = [reply] ∧
            reached ({ session with unread := rest }.answerLogin services frame) ∧
            let answer := reply.frame exchange.handshake.capabilities
            ({ session with unread := rest }.answerLogin services frame).written =
              if answer.payload.length ≤ Frame.maxPayload then session.written.push answer
              else session.written := by
  intro reached
  refine ⟨⟨_, run_greet _ scramble rfl rfl⟩, reached_events, ?_⟩
  intro session came
  have lawful := lawful_reached came
  refine ⟨lawful.innocent, ?_⟩
  intro frame rest moves
  have stage := stage_of_answerLogin moves
  have awaits := lawful.awaits stage
  refine ⟨awaits, ?_⟩
  intro services
  obtain ⟨outcome, reply, after, accepts⟩ := accepts_of_awaits
    (show AwaitsPacket { session.exchange with sent := [] }.handshake from awaits) services frame
  have fits := (Frame.fits_of_read? (read?_of_nextMove (.inl moves))).1
  refine ⟨outcome, reply, after, accepts.ran, accepts.sends, .answersLogin services moves fits came,
    ?_⟩
  intro answer
  rw [@answerLogin_accepted services { session with unread := rest } frame outcome reply after
    stage accepts]
  split
  · cases outcome <;> simp [conclude, wrote, finish, answer]
  · rfl

end Session

end SqlGate
