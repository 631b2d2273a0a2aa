import SqlGate.Proofs.Handshake.Course
import SqlGate.Proofs.Handshake.Progress
import SqlGate.Proofs.Session.Commands
import SqlGate.Proofs.Session.Stream

/-!
# Sessions are handshakes and commands

Until the login is decided a session mirrors a handshake that is told of the same
frames. Then it answers commands on the backend that the handshake left, or ends.
-/

namespace SqlGate.Session

set_option autoImplicit false

open Handshake

def calls (services : Services) (frames : List Frame) : List (Handshake.Call Services) :=
  frames.map fun frame => .receive services frame.sequence frame.payload

/-- The handshake of a new connection that is told of every frame. -/
def engine
    (settings : Settings)
    (ids : ConnectionIds)
    (scramble : Scramble)
    (services : Services)
    (frames : List Frame) :
    Exchange :=
  Handshake.run id (.fresh ids settings.serverVersion settings.host {})
    (.greet scramble :: calls services frames)

def transcript
    (services : Services)
    (host : String)
    (engine : Exchange)
    (following : List Frame) :
    List Outbound :=
  engine.sent ++
    if engine.handshake.phase = .authenticated then
      Command.replies services host engine.backend (Frame.untilFarewell following)
    else []

/-- How many of the frames after the handshake are taken as commands, a farewell
included. -/
def commandCount (engine : Exchange) (following : List Frame) : Nat :=
  if engine.handshake.phase = .authenticated then
    min ((Frame.untilFarewell following).length + 1) following.length
  else 0

def conclude (session : Session) : Outcome → Session
  | .switchRequested => session
  | .authenticated => { session with stage := .commands }
  | .rejected _ => session.finish (.ok ())

structure Mirrors (engine : Exchange) (session : Session) : Prop where
  stage : session.stage = .login
  exchange : { session.exchange with sent := [] } = { engine with sent := [] }
  sends : session.written.toList = engine.sent.map (·.frame engine.handshake.capabilities)
  answers : session.answered = 0

structure Awaits (engine : Exchange) : Prop where
  standing : Standing engine.handshake
  stands : phaseOf? engine.kinds = some engine.handshake.phase
  waits : engine.handshake.phase = .fastPath ∨ engine.handshake.phase = .methodMismatch

theorem Awaits.isTerminal {engine : Exchange} (awaits : Awaits engine) :
    engine.handshake.phase.isTerminal = false := by
  rcases awaits.waits with fast | switched
  · rw [fast]
    rfl
  · rw [switched]
    rfl

structure Taken
    (services : Services)
    (engine : Exchange)
    (frame : Frame)
    (outcome : Outcome)
    (reply : Outbound)
    (after : Exchange) :
    Prop where
  turn : Turn id engine (.receive services frame.sequence frame.payload) (.concluded outcome) after
  phase : after.handshake.phase = outcome.phase
  sends : after.sent = engine.sent ++ [reply]
  standing : Standing after.handshake
  stands : phaseOf? after.kinds = some after.handshake.phase
  goesOn : ∀ rest,
    Handshake.run id engine (calls services (frame :: rest)) =
      Handshake.run id after (calls services rest)

theorem taken_of_awaits
    {engine : Exchange}
    (awaits : Awaits engine)
    (services : Services)
    (frame : Frame) :
    ∃ outcome reply after, Taken services engine frame outcome reply after := by
  let call : Handshake.Call Services := .receive services frame.sequence frame.payload
  have turn := turn_perform id awaits.standing call
  obtain ⟨outcome, reply, concluded, phase, sends⟩ :=
    turn_awaited turn ⟨services, frame.sequence, frame.payload⟩ rfl awaits.waits
  have standing := standing_turn awaits.standing turn
  have stands := phaseOf?_turn awaits.stands turn
  rw [concluded] at turn
  exact ⟨outcome, reply, _, turn, phase, sends, standing, stands, fun _ => rfl⟩

/-- Greetings and switch requests look the same whatever the client can do. -/
theorem frame_of_phaseOf?
    {engine : Exchange}
    {phase : Phase}
    {outbound : Outbound}
    (stands : phaseOf? engine.kinds = some phase)
    (waits : phase.isTerminal = false)
    (member : outbound ∈ engine.sent)
    (capabilities other : Capabilities) :
    outbound.frame capabilities = outbound.frame other := by
  have kind := kind_of_phaseOf? stands waits outbound.packet.kind (List.mem_map_of_mem member)
  obtain ⟨sequence, packet⟩ := outbound
  cases packet with
  | greeting packet => rfl
  | switchRequest request => rfl
  | ok packet => rcases kind with same | same <;> cases same
  | err packet => rcases kind with same | same <;> cases same

theorem answer_awaited
    {services : Services}
    {engine after : Exchange}
    {session : Session}
    {frame : Frame}
    {outcome : Outcome}
    {reply : Outbound}
    (mirrors : Mirrors engine session)
    (taken : Taken services engine frame outcome reply after)
    (fits : Fits after.handshake.capabilities [reply]) :
    session.answer services frame =
      conclude
        (wrote { session with exchange := { after with sent := [reply] } }
          [reply.frame after.handshake.capabilities])
        outcome := by
  obtain ⟨sent, grows, performed⟩ := perform_unsent taken.turn
  rw [taken.sends, List.append_cancel_left_eq] at grows
  subst grows
  have ran : (receive services frame.sequence frame.payload).run
      { engine with sent := [] } = .ok outcome { after with sent := [reply] } :=
    settle_concluded performed
  have goesOn : session.isEnded = false := by rw [isEnded, mirrors.stage]
  have same : session.answer services frame = session.answerLogin services frame := by
    rw [answer, mirrors.stage]
  let informed : Session := { session with exchange := { after with sent := [reply] } }
  rw [same, answerLogin, mirrors.exchange, ran]
  refine (@writeThen_fits informed _ goesOn fits _).trans ?_
  cases outcome <;> rfl

/-- What went out before the client's abilities were known stands as it is. -/
theorem sends_awaited
    {services : Services}
    {engine after : Exchange}
    {session : Session}
    {frame : Frame}
    {outcome : Outcome}
    {reply : Outbound}
    (mirrors : Mirrors engine session)
    (awaits : Awaits engine)
    (taken : Taken services engine frame outcome reply after) :
    (session.written ++ #[reply.frame after.handshake.capabilities]).toList =
      after.sent.map (·.frame after.handshake.capabilities) := by
  have earlier : engine.sent.map (·.frame engine.handshake.capabilities) =
      engine.sent.map (·.frame after.handshake.capabilities) :=
    List.map_congr_left fun outbound member =>
      frame_of_phaseOf? awaits.stands awaits.isTerminal member _ _
  rw [Array.toList_append, mirrors.sends, earlier, taken.sends, List.map_append]
  rfl

theorem frame_of_run
    (services : Services)
    {after : Exchange}
    {outbound : Outbound}
    (stands : phaseOf? after.kinds = some after.handshake.phase)
    (member : outbound ∈ after.sent)
    (frames : List Frame) :
    outbound.frame after.handshake.capabilities =
      outbound.frame (Handshake.run id after (calls services frames)).handshake.capabilities := by
  cases ended : after.handshake.phase.isTerminal with
  | true => rw [Handshake.run_ended id ended]
  | false => exact frame_of_phaseOf? stands ended member _ _

/-- What a session makes of frames when the handshake behind it takes some of them
and comes out like this. -/
structure Played
    (services : Services)
    (session : Session)
    (frames : List Frame)
    (final : Exchange)
    (taken : Nat) :
    Prop where
  sends : (play services session frames).written.toList =
    (transcript services session.settings.host final (frames.drop taken)).map
      (·.frame final.handshake.capabilities)
  answers : (play services session frames).answered = commandCount final (frames.drop taken)
  hears : heard services session frames = taken + commandCount final (frames.drop taken)
  closes : (play services session frames).close.result? =
    some (if final.handshake.phase.isTerminal then .ok () else .error .streamEnded)

theorem played_nil
    (services : Services)
    {engine : Exchange}
    {session : Session}
    (mirrors : Mirrors engine session)
    (waits : engine.handshake.phase.isTerminal = false) :
    Played services session [] engine 0 := by
  have undecided : engine.handshake.phase ≠ .authenticated := by
    intro decided
    rw [decided] at waits
    cases waits
  refine ⟨?_, ?_, ?_, ?_⟩
  · rw [transcript, if_neg undecided, List.append_nil]
    exact mirrors.sends
  · rw [commandCount, if_neg undecided]
    exact mirrors.answers
  · rw [commandCount, if_neg undecided]
    rfl
  · rw [waits, play, List.foldl_nil, close, mirrors.stage]
    rfl

theorem played_next
    {services : Services}
    {session : Session}
    {frame : Frame}
    {rest : List Frame}
    {final : Exchange}
    {taken : Nat}
    (goesOn : session.isEnded = false)
    (host : (session.answer services frame).settings = session.settings)
    (played : Played services (session.answer services frame) rest final taken) :
    Played services session (frame :: rest) final (taken + 1) := by
  have plays : play services session (frame :: rest) =
      play services (session.answer services frame) rest := rfl
  refine ⟨?_, ?_, ?_, ?_⟩
  · rw [plays, played.sends, host, List.drop_succ_cons]
  · rw [plays, played.answers, List.drop_succ_cons]
  · rw [heard, goesOn, if_neg Bool.false_ne_true, played.hears, List.drop_succ_cons]
    omega
  · rw [plays, played.closes]

theorem played_rejected
    (services : Services)
    {session : Session}
    {final : Exchange}
    (frames : List Frame)
    (phase : final.handshake.phase = .rejected)
    (stage : session.stage = .ended (.ok ()))
    (sends : session.written.toList = final.sent.map (·.frame final.handshake.capabilities))
    (answers : session.answered = 0) :
    Played services session frames final 0 := by
  have ended : session.isEnded = true := by rw [isEnded, stage]
  have denied : final.handshake.phase ≠ .authenticated := by
    rw [phase]
    exact Phase.noConfusion
  refine ⟨?_, ?_, ?_, ?_⟩
  · rw [play_ended services ended, transcript, if_neg denied, List.append_nil, sends]
  · rw [play_ended services ended, commandCount, if_neg denied, answers]
  · rw [heard_ended services ended, commandCount, if_neg denied]
  · rw [play_ended services ended, close_ended ended, result?, stage, phase]
    rfl

/-- A handshake that admits the client leaves the rest to the commands. -/
theorem played_authenticated
    (services : Services)
    {session : Session}
    {final : Exchange}
    (frames : List Frame)
    (phase : final.handshake.phase = .authenticated)
    (stage : session.stage = .commands)
    (handshake : session.exchange.handshake = final.handshake)
    (backend : session.exchange.backend = final.backend)
    (sends : session.written.toList = final.sent.map (·.frame final.handshake.capabilities))
    (answers : session.answered = 0)
    (fits : Fits final.handshake.capabilities
      (transcript services session.settings.host final frames)) :
    Played services session frames final 0 := by
  have replyFits : Fits session.exchange.handshake.capabilities
      (Command.replies services session.settings.host session.exchange.backend
        (Frame.untilFarewell frames)) := by
    intro packet member
    rw [handshake]
    rw [backend] at member
    rw [transcript, if_pos phase] at fits
    exact fits packet (List.mem_append_right _ member)
  have served := play_commands services frames stage replyFits
  refine ⟨?_, ?_, ?_, ?_⟩
  · rw [served.sends, sends, transcript, List.drop_zero, if_pos phase, List.map_append, handshake,
      backend]
  · rw [served.answers, answers, commandCount, if_pos phase, Nat.zero_add, List.drop_zero]
  · rw [served.hears, commandCount, if_pos phase, Nat.zero_add, List.drop_zero]
  · rw [served.closes, phase]
    rfl

/-- If all that a handshake leads to fits its frames, so does its next reply. -/
theorem fits_taken
    {services : Services}
    {engine after : Exchange}
    {frame : Frame}
    {outcome : Outcome}
    {reply : Outbound}
    {host : String}
    {rest following : List Frame}
    (taken : Taken services engine frame outcome reply after)
    (fits : Fits (Handshake.run id after (calls services rest)).handshake.capabilities
      (transcript services host (Handshake.run id after (calls services rest)) following)) :
    Fits after.handshake.capabilities [reply] := by
  have member : reply ∈ after.sent := by
    rw [taken.sends]
    exact List.mem_append_right _ List.mem_cons_self
  have kept := (sent_isPrefix_run id taken.standing (calls services rest)).subset member
  intro outbound same
  rw [List.mem_singleton.mp same, frame_of_run services taken.stands member rest]
  exact fits reply (List.mem_append_left _ kept)

theorem play_login
    (services : Services)
    (frames : List Frame)
    {engine : Exchange}
    {session : Session}
    (mirrors : Mirrors engine session)
    (awaits : Awaits engine) :
    let final := Handshake.run id engine (calls services frames)
    let taken := final.sent.length - engine.sent.length
    Fits final.handshake.capabilities
        (transcript services session.settings.host final (frames.drop taken)) →
      Played services session frames final taken := by
  induction frames generalizing engine session with
  | nil =>
      intro final taken _
      have none : taken = 0 := Nat.sub_self _
      rw [none]
      exact played_nil services mirrors awaits.isTerminal
  | cons frame rest ih =>
      intro final count fits
      obtain ⟨outcome, reply, after, taken⟩ := taken_of_awaits awaits services frame
      have later : final = Handshake.run id after (calls services rest) := taken.goesOn rest
      have one : count = final.sent.length - after.sent.length + 1 := by
        have longer := (sent_isPrefix_run id taken.standing (calls services rest)).length_le
        rw [← later] at longer
        rw [taken.sends, List.length_append, List.length_singleton] at longer ⊢
        omega
      rw [one, List.drop_succ_cons, later] at fits
      have answers := answer_awaited mirrors taken (fits_taken taken fits)
      have sends := sends_awaited mirrors awaits taken
      have host : (session.answer services frame).settings = session.settings := by
        rw [answers]
        cases outcome <;> rfl
      rw [one, later]
      apply played_next (by rw [isEnded, mirrors.stage]) host
      -- The outcome tells who goes on: the handshake, the commands, or nobody.
      cases outcome with
      | switchRequested =>
          have next : Mirrors after (session.answer services frame) := by
            rw [answers]
            exact ⟨mirrors.stage, rfl, sends, mirrors.answers⟩
          apply ih next ⟨taken.standing, taken.stands, .inr taken.phase⟩
          rw [host]
          exact fits
      | authenticated =>
          have ended : after.handshake.phase.isTerminal = true := by
            rw [taken.phase]
            rfl
          rw [Handshake.run_ended id ended, Nat.sub_self] at fits ⊢
          rw [answers]
          exact played_authenticated services rest taken.phase rfl rfl rfl sends mirrors.answers
            fits
      | rejected code =>
          have ended : after.handshake.phase.isTerminal = true := by
            rw [taken.phase]
            rfl
          rw [Handshake.run_ended id ended, Nat.sub_self, answers]
          exact played_rejected services rest taken.phase rfl sends mirrors.answers

def greeting (settings : Settings) (ids : ConnectionIds) (scramble : Scramble) : Exchange :=
  (Exchange.fresh ids settings.serverVersion settings.host {}).greeted scramble

theorem start_eq (settings : Settings) (ids : ConnectionIds) (scramble : Scramble) :
    (start settings ids scramble).1 =
      write { settings, exchange := greeting settings ids scramble }
        (greeting settings ids scramble).sent := by
  let fresh : Exchange :=
    { ids
      handshake :=
        { replies := { serverVersion := settings.serverVersion }, host := settings.host } }
  have greets : (greet scramble).run fresh = .ok ids.draw.1 (greeting settings ids scramble) :=
    run_greet fresh scramble rfl rfl
  unfold start
  dsimp only
  rw [greets]

theorem engine_eq
    (settings : Settings)
    (ids : ConnectionIds)
    (scramble : Scramble)
    (services : Services)
    (frames : List Frame) :
    engine settings ids scramble services frames =
      Handshake.run id (greeting settings ids scramble) (calls services frames) := by
  have greets : (greet scramble).run (.fresh ids settings.serverVersion settings.host {}) =
      .ok ids.draw.1 (greeting settings ids scramble) := run_greet _ scramble rfl rfl
  rw [engine, run_cons, perform, greets]
  rfl

theorem mirrors_start
    (settings : Settings)
    (ids : ConnectionIds)
    (scramble : Scramble)
    (fits : Fits .serverDefault (greeting settings ids scramble).sent) :
    Mirrors (greeting settings ids scramble) (start settings ids scramble).1 ∧
      (start settings ids scramble).1.transport = {} ∧
      (start settings ids scramble).1.settings = settings := by
  have written := write_fits { settings, exchange := greeting settings ids scramble } fits
  rw [start_eq, written]
  refine ⟨⟨rfl, rfl, ?_, rfl⟩, rfl, rfl⟩
  exact Array.toList_append

theorem received_calls (services : Services) (frames : List Frame) :
    received (calls services frames) =
      frames.map fun frame => ⟨services, frame.sequence, frame.payload⟩ := by
  induction frames with
  | nil => rfl
  | cons frame rest ih => exact congrArg (_ :: ·) ih

theorem sequences_engine
    (settings : Settings)
    (ids : ConnectionIds)
    (scramble : Scramble)
    (services : Services)
    (frames : List Frame) :
    let engine := engine settings ids scramble services frames
    engine.sent.length ≤ 3 ∧
      engine.sent.map (·.sequence) =
        0 :: (frames.take (engine.sent.length - 1)).map (·.sequence + 1) := by
  intro engine
  have progress := (progress_run id ids settings.serverVersion settings.host {}
    (.greet scramble :: calls services frames)).2
  have opened : opening? (.greet scramble :: calls services frames) =
      some (scramble, received (calls services frames)) := rfl
  rw [opened, received_calls] at progress
  have sequences := Progress.sequences rfl progress
  refine ⟨sequences.1, sequences.2.2.trans ?_⟩
  rw [← List.map_take, List.map_map]
  rfl

theorem sequence_transcript
    (services : Services)
    (host : String)
    (engine : Exchange)
    (following : List Frame) :
    (transcript services host engine following).map (·.sequence) =
      engine.sent.map (·.sequence) ++
        (if engine.handshake.phase = .authenticated then
          Frame.untilFarewell following else []).map (·.sequence + 1) := by
  rw [transcript, List.map_append]
  split
  · rw [Command.sequence_replies]
  · rfl

theorem played_start
    (settings : Settings)
    (ids : ConnectionIds)
    (scramble : Scramble)
    (services : Services)
    (frames : List Frame) :
    let engine := engine settings ids scramble services frames
    let taken := engine.sent.length - 1
    Fits engine.handshake.capabilities
        (transcript services settings.host engine (frames.drop taken)) →
      (start settings ids scramble).1.transport = {} ∧
        (start settings ids scramble).1.settings = settings ∧
        Played services (start settings ids scramble).1 frames engine taken := by
  intro engine taken fits
  have standing : Standing (greeting settings ids scramble).handshake := rfl
  have stands : phaseOf? (greeting settings ids scramble).kinds = some .fastPath := rfl
  have goesOn := engine_eq settings ids scramble services frames
  have greetingFits : Fits .serverDefault (greeting settings ids scramble).sent := by
    intro outbound member
    have grows := sent_isPrefix_run id standing (calls services frames)
    have same := frame_of_run services stands member frames
    rw [← goesOn] at grows same
    rw [show outbound.frame .serverDefault = _ from same]
    exact fits outbound (List.mem_append_left _ (grows.subset member))
  obtain ⟨mirrors, fresh, host⟩ := mirrors_start settings ids scramble greetingFits
  have played := play_login services frames mirrors ⟨standing, stands, .inl rfl⟩
  rw [← goesOn, host] at played
  exact ⟨fresh, host, played fits⟩

theorem written_close (session : Session) : session.close.written = session.written := by
  unfold close
  split <;> rfl

theorem answered_close (session : Session) : session.close.answered = session.answered := by
  unfold close
  split <;> rfl

/-- Fed with any bytes in any pieces, and then left alone, a session whose time is
not over has sent what the handshake sends that is told of the complete frames, and
then, if that admits the client, the replies to the commands up to a farewell. -/
theorem session_is_handshake_then_commands
    (settings : Settings)
    (ids : ConnectionIds)
    (scramble : Scramble)
    (services : Services)
    (events : List Event)
    (quiet : ∀ event ∈ events, event.isQuiet = true) :
    let arrived := events.flatMap Event.chunk
    let frames := Frame.frames arrived
    let engine := engine settings ids scramble services frames
    let capabilities := engine.handshake.capabilities
    let taken := engine.sent.length - 1
    let following := frames.drop taken
    let outbound := transcript services settings.host engine following
    let commands :=
      if engine.handshake.phase = .authenticated then Frame.untilFarewell following else []
    let final := (events ++ [Event.inputEnd]).foldl (handle services)
      (start settings ids scramble).1
    Fits capabilities outbound → ¬ TimedOut final →
      (arrived = frames.flatMap Frame.bytes ++ Frame.left arrived ∧
        Frame.read? (Frame.left arrived) = none) ∧
      final.written.toList = outbound.map (·.frame capabilities) ∧
      final.written.toList.map (·.sequence) =
        0 :: (frames.take taken ++ commands).map (·.sequence + 1) ∧
      taken ≤ 2 ∧
      final.answered = commandCount engine following ∧
      (∃ later, arrived =
        (frames.take (taken + final.answered)).flatMap Frame.bytes ++ final.unread ++ later) ∧
      final.result? =
        some (if engine.handshake.phase.isTerminal then .ok () else .error .streamEnded) ∧
      (engine.handshake.phase ≠ .authenticated →
        outbound = engine.sent ∧ final.answered = 0) := by
  intro arrived frames engine capabilities taken following outbound commands final fits punctual
  obtain ⟨fresh, host, played⟩ := played_start settings ids scramble services frames fits
  have sequences := sequences_engine settings ids scramble services frames
  rcases handle_plays services fresh events quiet with timedOut | ⟨other, same, reads⟩
  · exact absurd timedOut punctual
  have written : final.written.toList = outbound.map (·.frame capabilities) := by
    have sends := played.sends
    rw [host, ← written_close] at sends
    exact (congrArg (·.written.toList) same).trans sends
  have answered : final.answered = commandCount engine following := by
    have answers := played.answers
    rw [← answered_close] at answers
    exact (congrArg (·.answered) same).trans answers
  refine ⟨⟨(Frame.bytes_frames arrived).symm, Frame.read?_left arrived⟩, written, ?_, ?_, answered,
    ?_, ?_, ?_⟩
  · rw [written, List.map_map]
    refine (sequence_transcript services settings.host engine following).trans ?_
    rw [List.map_append, ← List.cons_append]
    exact congrArg (· ++ commands.map (·.sequence + 1)) sequences.2
  · exact Nat.sub_le_sub_right sequences.1 1
  · obtain ⟨later, split⟩ := reads.takes
    rw [played.hears] at split
    refine ⟨later, ?_⟩
    rw [answered, show final.unread = other.unread from congrArg Session.unread same]
    exact split
  · exact (congrArg result? same).trans played.closes
  · intro undecided
    constructor
    · exact (congrArg (engine.sent ++ ·) (if_neg undecided)).trans (List.append_nil _)
    · rw [answered, commandCount, if_neg undecided]

/-- A client that is asked to switch, is admitted, asks for a sign of life and
leaves. Its bytes arrive in two pieces. -/
def visit : List Event :=
  let bytes := Frame.bytes ⟨1, LoginPacket.encode { capabilities := ⟨0x200⟩ }⟩
    ++ Frame.bytes ⟨3, []⟩
    ++ Frame.bytes ⟨0, [0x0E]⟩
    ++ Frame.bytes ⟨0, [0x01]⟩
  [.bytes (bytes.take 50), .elapse 7, .bytes (bytes.drop 50)]

def openHouse : Services where
  policy := { check := fun _ => .ok () }
  resolve := fun _ => none

theorem visit_of_open_house :
    let final := (visit ++ [Event.inputEnd]).foldl (handle openHouse)
      (start {} {} (FixedBytes.zero 20)).1
    final.written.toList.map (·.sequence) = [0, 2, 4, 1] ∧
      final.answered = 2 ∧
      final.result? = some (.ok ()) := by
  intro final
  have quiet : ∀ event ∈ visit, event.isQuiet = true := by decide +kernel
  have ends : ((visit ++ [Event.inputEnd]).foldl (handle openHouse)
      (start {} {} (FixedBytes.zero 20)).1).result? = some (.ok ()) := by decide +kernel
  have punctual : ¬ TimedOut final := by
    rintro ⟨cause, timedOut⟩
    cases ends.symm.trans timedOut
  have session := session_is_handshake_then_commands {} {} (FixedBytes.zero 20) openHouse visit
    quiet (by unfold Fits; decide +kernel) punctual
  obtain ⟨_, _, sequences, _, answered, _⟩ := session
  refine ⟨sequences.trans ?_, answered.trans ?_, ends⟩
  · decide +kernel
  · decide +kernel

end SqlGate.Session
