import Mathlib.Data.List.Induction
import SqlGate.Proofs.Handshake.Ruling

/-!
# Turns of a handshake

`Turn` lists all that one call can do to a handshake that stands between two
calls, and `turn_perform` says that nothing else happens. What holds of a run is
proved from it by `run_induction`, one case for each turn.
-/

namespace SqlGate.Handshake

set_option autoImplicit false

variable {Source : Type}

/-- Where a handshake stands between two calls. Behind the first phase there is a
challenge, and a switch is awaited from a client that made an attempt. -/
def Standing (handshake : Handshake) : Prop :=
  match handshake.phase with
  | .initial => handshake.challenge = none
  | .fastPath => handshake.challenge.isSome = true
  | .methodMismatch => handshake.challenge.isSome = true ∧ handshake.attempt.isSome = true
  | .switchResponseReceived => False
  | .authenticated => handshake.challenge.isSome = true
  | .rejected => handshake.challenge.isSome = true

theorem standing_fresh
    (ids : ConnectionIds)
    (serverVersion host : String)
    (backend : Backend) :
    Standing (Exchange.fresh ids serverVersion host backend).handshake := rfl

/-- What a call does, by the phase and the packet that it meets. -/
inductive Turn (services : Source → Services) (before : Exchange) :
    Call Source → Answer → Exchange → Prop where
  | greeted
      (scramble : Scramble)
      (phase : before.handshake.phase = .initial)
      (unput : before.handshake.challenge = none) :
      Turn services before (.greet scramble) (.numbered before.ids.draw.1)
        (before.greeted scramble)
  | greetedAlready
      (scramble : Scramble)
      (put : before.handshake.challenge.isSome = true)
      (phase : before.handshake.phase ≠ .initial) :
      Turn services before (.greet scramble) (.refused .alreadyGreeted) before
  | malformed
      (packet : Inbound Source)
      (challenge : Challenge)
      (problem : WireError)
      (phase : before.handshake.phase = .fastPath)
      (put : before.handshake.challenge = some challenge)
      (broken : LoginPacket.decode packet.payload = .error problem) :
      Turn services before packet.call (.concluded (.rejected .badHandshake))
        ((before.answering packet.sequence).ruled .malformed)
  /-- The client negotiated the plugin and is judged at once. -/
  | judged
      (packet : Inbound Source)
      (challenge : Challenge)
      (login : LoginPacket)
      (phase : before.handshake.phase = .fastPath)
      (put : before.handshake.challenge = some challenge)
      (decoded : LoginPacket.decode packet.payload = .ok login)
      (plugin : negotiated login (services packet.source).policy.plugin = true)
      (verdict : Ruling)
      (made : verdict =
        ruling (services packet.source) before.handshake.host challenge (.ofPacket login)) :
      Turn services before packet.call (.concluded verdict.outcome)
        (((before.answering packet.sequence).recorded login).ruled verdict)
  /-- The client is asked to switch. -/
  | switched
      (packet : Inbound Source)
      (challenge : Challenge)
      (login : LoginPacket)
      (phase : before.handshake.phase = .fastPath)
      (put : before.handshake.challenge = some challenge)
      (decoded : LoginPacket.decode packet.payload = .ok login)
      (plugin : negotiated login (services packet.source).policy.plugin = false) :
      Turn services before packet.call (.concluded .switchRequested)
        (((before.answering packet.sequence).recorded login).switched
          (services packet.source).policy.plugin challenge.scramble)
  /-- The client answered the switch request and is judged by that answer. -/
  | judgedAnew
      (packet : Inbound Source)
      (challenge : Challenge)
      (attempt : LoginAttempt)
      (phase : before.handshake.phase = .methodMismatch)
      (put : before.handshake.challenge = some challenge)
      (recorded : before.handshake.attempt = some attempt)
      (verdict : Ruling)
      (made : verdict =
        ruling (services packet.source) before.handshake.host challenge
          { attempt with authResponse := packet.payload }) :
      Turn services before packet.call (.concluded verdict.outcome)
        (((before.answering packet.sequence).responded attempt packet.payload).ruled verdict)
  | untimely
      (packet : Inbound Source)
      (notFast : before.handshake.phase ≠ .fastPath)
      (notSwitched : before.handshake.phase ≠ .methodMismatch) :
      Turn services before packet.call (.refused (.unexpectedPacket before.handshake.phase)) before

section Perform

variable (services : Source → Services)
variable {before : Exchange}
variable {challenge : Challenge}
variable (packet : Inbound Source)

theorem perform_malformed
    {problem : WireError}
    (phase : before.handshake.phase = .fastPath)
    (put : before.handshake.challenge = some challenge)
    (broken : LoginPacket.decode packet.payload = .error problem) :
    perform services before packet.call =
      (.concluded (.rejected .badHandshake),
        (before.answering packet.sequence).ruled .malformed) := by
  rw [Inbound.call, perform,
    run_receive_fastPath _ before _ _ phase (Option.isSome_of_eq_some put),
    run_receiveLogin_malformed _ (before.answering packet.sequence) phase broken]
  rfl

theorem perform_negotiated
    {login : LoginPacket}
    (phase : before.handshake.phase = .fastPath)
    (put : before.handshake.challenge = some challenge)
    (decoded : LoginPacket.decode packet.payload = .ok login)
    (plugin : negotiated login (services packet.source).policy.plugin = true)
    {verdict : Ruling}
    (made : verdict =
      ruling (services packet.source) before.handshake.host challenge (.ofPacket login)) :
    perform services before packet.call =
      (.concluded verdict.outcome,
        ((before.answering packet.sequence).recorded login).ruled verdict) := by
  subst made
  rw [Inbound.call, perform,
    run_receive_fastPath _ before _ _ phase (Option.isSome_of_eq_some put),
    run_receiveLogin _ (before.answering packet.sequence) phase put decoded, if_pos plugin]
  rfl

theorem perform_unnegotiated
    {login : LoginPacket}
    (phase : before.handshake.phase = .fastPath)
    (put : before.handshake.challenge = some challenge)
    (decoded : LoginPacket.decode packet.payload = .ok login)
    (plugin : negotiated login (services packet.source).policy.plugin = false) :
    perform services before packet.call =
      (.concluded .switchRequested,
        ((before.answering packet.sequence).recorded login).switched
          (services packet.source).policy.plugin challenge.scramble) := by
  rw [Inbound.call, perform,
    run_receive_fastPath _ before _ _ phase (Option.isSome_of_eq_some put),
    run_receiveLogin _ (before.answering packet.sequence) phase put decoded,
    if_neg (ne_true_of_eq_false plugin)]
  rfl

theorem perform_switchAnswer
    {attempt : LoginAttempt}
    (phase : before.handshake.phase = .methodMismatch)
    (put : before.handshake.challenge = some challenge)
    (recorded : before.handshake.attempt = some attempt)
    {verdict : Ruling}
    (made : verdict =
      ruling (services packet.source) before.handshake.host challenge
        { attempt with authResponse := packet.payload }) :
    perform services before packet.call =
      (.concluded verdict.outcome,
        ((before.answering packet.sequence).responded attempt packet.payload).ruled verdict) := by
  subst made
  rw [Inbound.call, perform,
    run_receive_methodMismatch _ before _ _ phase (Option.isSome_of_eq_some put)
      (Option.isSome_of_eq_some recorded),
    run_receiveSwitched _ (before.answering packet.sequence) _ phase put recorded]
  rfl

theorem perform_untimely
    (notFast : before.handshake.phase ≠ .fastPath)
    (notSwitched : before.handshake.phase ≠ .methodMismatch) :
    perform services before packet.call =
      (.refused (.unexpectedPacket before.handshake.phase), before) := by
  rw [Inbound.call, perform, run_receive_untimely _ before _ _ notFast notSwitched]
  rfl

end Perform

section Standing

variable (services : Source → Services)
variable {before : Exchange}

theorem turn_greet (standing : Standing before.handshake) (scramble : Scramble) :
    Turn services before (.greet scramble)
      (perform services before (.greet scramble)).1
      (perform services before (.greet scramble)).2 := by
  by_cases phase : before.handshake.phase = .initial
  · have unput : before.handshake.challenge = none := by
      simpa only [Standing, phase] using standing
    rw [perform, run_greet before scramble phase unput]
    exact .greeted scramble phase unput
  · have put : before.handshake.challenge.isSome = true := by
      unfold Standing at standing
      split at standing <;> simp_all
    rw [perform, run_greet_again before scramble put]
    exact .greetedAlready scramble put phase

theorem turn_fastPath
    (phase : before.handshake.phase = .fastPath)
    (standing : Standing before.handshake)
    (packet : Inbound Source) :
    Turn services before packet.call
      (perform services before packet.call).1
      (perform services before packet.call).2 := by
  have isPut : before.handshake.challenge.isSome = true := by
    simpa only [Standing, phase] using standing
  obtain ⟨challenge, put⟩ := Option.isSome_iff_exists.mp isPut
  cases decoded : LoginPacket.decode packet.payload with
  | error problem =>
      rw [perform_malformed services packet phase put decoded]
      exact .malformed packet challenge problem phase put decoded
  | ok login =>
      cases plugin : negotiated login (services packet.source).policy.plugin with
      | true =>
          rw [perform_negotiated services packet phase put decoded plugin rfl]
          exact .judged packet challenge login phase put decoded plugin _ rfl
      | false =>
          rw [perform_unnegotiated services packet phase put decoded plugin]
          exact .switched packet challenge login phase put decoded plugin

theorem turn_methodMismatch
    (phase : before.handshake.phase = .methodMismatch)
    (standing : Standing before.handshake)
    (packet : Inbound Source) :
    Turn services before packet.call
      (perform services before packet.call).1
      (perform services before packet.call).2 := by
  have stands : before.handshake.challenge.isSome = true ∧
      before.handshake.attempt.isSome = true := by
    simpa only [Standing, phase] using standing
  obtain ⟨challenge, put⟩ := Option.isSome_iff_exists.mp stands.1
  obtain ⟨attempt, recorded⟩ := Option.isSome_iff_exists.mp stands.2
  rw [perform_switchAnswer services packet phase put recorded rfl]
  exact .judgedAnew packet challenge attempt phase put recorded _ rfl

/-- Between two calls nothing but these turns can happen. -/
theorem turn_perform (standing : Standing before.handshake) (call : Call Source) :
    Turn services before call
      (perform services before call).1
      (perform services before call).2 := by
  cases call with
  | greet scramble => exact turn_greet services standing scramble
  | receive source sequence payload =>
      let packet : Inbound Source := ⟨source, sequence, payload⟩
      by_cases fast : before.handshake.phase = .fastPath
      · exact turn_fastPath services fast standing packet
      · by_cases switched : before.handshake.phase = .methodMismatch
        · exact turn_methodMismatch services switched standing packet
        · change Turn services before packet.call (perform services before packet.call).1
            (perform services before packet.call).2
          rw [perform_untimely services packet fast switched]
          exact .untimely packet fast switched

/-- A handshake that goes on from elsewhere may be in a state that no run comes to. There too a
call does one of these turns, or it is refused and changes nothing. -/
theorem turn_or_refusal (before : Exchange) (call : Call Source) :
    Turn services before call (perform services before call).1 (perform services before call).2 ∨
      ∃ violation, perform services before call = (.refused violation, before) := by
  by_cases standing : Standing before.handshake
  · exact .inl (turn_perform services standing call)
  apply Or.inr
  cases call with
  | greet scramble =>
      cases unput : before.handshake.challenge with
      | some challenge =>
          rw [perform, run_greet_again before scramble (Option.isSome_of_eq_some unput)]
          exact ⟨_, rfl⟩
      | none =>
          have phase : before.handshake.phase ≠ .initial := by
            intro initial
            simp only [Standing, initial, unput, not_true_eq_false] at standing
          rw [perform, run_greet_untimely before scramble phase unput]
          exact ⟨_, rfl⟩
  | receive source sequence payload =>
      rw [perform, run_receive_unawaited]
      · exact ⟨_, rfl⟩
      · intro fast
        simpa [Standing, fast] using standing
      · intro switched
        simp only [Standing, switched, not_and_or] at standing
        simpa using standing

end Standing

theorem standing_ruled
    {exchange : Exchange}
    (verdict : Ruling)
    (ends : verdict.outcome.isTerminal = true)
    (put : exchange.handshake.challenge.isSome = true) :
    Standing (exchange.ruled verdict).handshake := by
  simp only [Standing, Exchange.ruled, Exchange.replied]
  cases outcome : verdict.outcome with
  | switchRequested => simp only [outcome, Outcome.isTerminal, Bool.false_eq_true] at ends
  | authenticated => exact put
  | rejected code => exact put

theorem standing_turn
    {services : Source → Services}
    {before after : Exchange}
    {call : Call Source}
    {answer : Answer}
    (standing : Standing before.handshake)
    (turn : Turn services before call answer after) :
    Standing after.handshake := by
  cases turn with
  | greeted scramble phase unput => rfl
  | greetedAlready scramble put phase => exact standing
  | malformed packet challenge problem phase put broken =>
      apply standing_ruled _ rfl
      exact Option.isSome_iff_exists.mpr ⟨challenge, put⟩
  | judged packet challenge login phase put decoded plugin verdict made =>
      apply standing_ruled _ (by rw [made]; exact ruling_isTerminal ..)
      simp only [Exchange.recorded, Exchange.answering, record, put, Option.map_some,
        Option.isSome_some]
  | switched packet challenge login phase put decoded plugin =>
      constructor
      · simp only [Exchange.switched, Exchange.replied, Exchange.recorded, Exchange.answering,
          record, put, Option.map_some, Option.isSome_some]
      · rfl
  | judgedAnew packet challenge attempt phase put recorded verdict made =>
      apply standing_ruled _ (by rw [made]; exact ruling_isTerminal ..)
      exact Option.isSome_iff_exists.mpr ⟨challenge, put⟩
  | untimely packet notFast notSwitched => exact standing

/-- What holds before any call, and after each turn if it held before the turn,
holds of every run. -/
theorem run_induction
    {services : Source → Services}
    {start : Exchange}
    (holds : List (Call Source) → Exchange → Prop)
    (standing : Standing start.handshake)
    (base : holds [] start)
    (step : ∀ calls before call answer after, Standing before.handshake → holds calls before →
      Turn services before call answer after → holds (calls ++ [call]) after)
    (calls : List (Call Source)) :
    Standing (run services start calls).handshake ∧ holds calls (run services start calls) := by
  -- From the end: the last call meets the exchange of all the others.
  induction calls using List.reverseRecOn with
  | nil => exact ⟨standing, base⟩
  | append_singleton earlier call ih =>
      have turn := turn_perform services ih.1 call
      rw [run_append]
      exact ⟨standing_turn ih.1 turn, step earlier _ call _ _ ih.1 ih.2 turn⟩

theorem turn_ended
    {services : Source → Services}
    {before after : Exchange}
    {call : Call Source}
    {answer : Answer}
    (ended : before.handshake.phase.isTerminal = true)
    (turn : Turn services before call answer after) :
    after = before := by
  cases turn with
  | greeted scramble phase unput =>
      rw [phase] at ended
      cases ended
  | greetedAlready scramble put phase => rfl
  | malformed packet challenge problem phase put broken =>
      rw [phase] at ended
      cases ended
  | judged packet challenge login phase put decoded plugin verdict made =>
      rw [phase] at ended
      cases ended
  | switched packet challenge login phase put decoded plugin =>
      rw [phase] at ended
      cases ended
  | judgedAnew packet challenge attempt phase put recorded verdict made =>
      rw [phase] at ended
      cases ended
  | untimely packet notFast notSwitched => rfl

theorem perform_ended
    (services : Source → Services)
    {before : Exchange}
    (ended : before.handshake.phase.isTerminal = true)
    (call : Call Source) :
    (perform services before call).2 = before := by
  rcases turn_or_refusal services before call with turn | ⟨violation, refuses⟩
  · exact turn_ended ended turn
  · rw [refuses]

theorem run_ended
    (services : Source → Services)
    {start : Exchange}
    (ended : start.handshake.phase.isTerminal = true)
    (calls : List (Call Source)) :
    run services start calls = start := by
  induction calls with
  | nil => rfl
  | cons call later ih => rw [run_cons, perform_ended services ended call, ih]

theorem turn_awaited
    {services : Source → Services}
    {before after : Exchange}
    {call : Call Source}
    {answer : Answer}
    (turn : Turn services before call answer after)
    (packet : Inbound Source)
    (arrives : call = packet.call)
    (waits : before.handshake.phase = .fastPath ∨ before.handshake.phase = .methodMismatch) :
    ∃ outcome reply,
      answer = .concluded outcome ∧
        after.handshake.phase = outcome.phase ∧
        after.sent = before.sent ++ [reply] := by
  cases turn with
  | greeted scramble phase unput => cases arrives
  | greetedAlready scramble put phase => cases arrives
  | malformed packet challenge problem phase put broken => exact ⟨_, _, rfl, rfl, rfl⟩
  | judged packet challenge login phase put decoded plugin verdict made =>
      exact ⟨_, _, rfl, rfl, rfl⟩
  | switched packet challenge login phase put decoded plugin => exact ⟨_, _, rfl, rfl, rfl⟩
  | judgedAnew packet challenge attempt phase put recorded verdict made =>
      exact ⟨_, _, rfl, rfl, rfl⟩
  | untimely packet notFast notSwitched =>
      rcases waits with fast | switched
      · exact absurd fast notFast
      · exact absurd switched notSwitched

/-- What a call does and sends does not depend on what was sent before. -/
theorem perform_unsent
    {services : Source → Services}
    {before after : Exchange}
    {call : Call Source}
    {answer : Answer}
    (turn : Turn services before call answer after) :
    ∃ reply,
      after.sent = before.sent ++ reply ∧
        perform services { before with sent := [] } call =
          (answer, { after with sent := reply }) := by
  let unsent : Exchange := { before with sent := [] }
  -- No step reads the log, so each case is run again on the empty one.
  cases turn with
  | greeted scramble phase unput =>
      refine ⟨_, rfl, ?_⟩
      rw [perform, run_greet unsent scramble phase unput]
      rfl
  | greetedAlready scramble put phase =>
      refine ⟨[], (List.append_nil _).symm, ?_⟩
      rw [perform, run_greet_again unsent scramble put]
      rfl
  | malformed packet challenge problem phase put broken =>
      refine ⟨_, rfl, ?_⟩
      rw [@perform_malformed _ services unsent challenge packet problem phase put broken]
      rfl
  | judged packet challenge login phase put decoded plugin verdict made =>
      refine ⟨_, rfl, ?_⟩
      rw [@perform_negotiated _ services unsent challenge packet login phase put decoded plugin
        verdict made]
      rfl
  | switched packet challenge login phase put decoded plugin =>
      refine ⟨_, rfl, ?_⟩
      rw [@perform_unnegotiated _ services unsent challenge packet login phase put decoded plugin]
      rfl
  | judgedAnew packet challenge attempt phase put recorded verdict made =>
      refine ⟨_, rfl, ?_⟩
      rw [@perform_switchAnswer _ services unsent challenge packet attempt phase put recorded
        verdict made]
      rfl
  | untimely packet notFast notSwitched =>
      refine ⟨[], (List.append_nil _).symm, ?_⟩
      rw [@perform_untimely _ services unsent packet notFast notSwitched]

theorem sent_isPrefix_run
    (services : Source → Services)
    {start : Exchange}
    (standing : Standing start.handshake)
    (calls : List (Call Source)) :
    start.sent <+: (run services start calls).sent := by
  suffices grows : Standing (run services start calls).handshake ∧
      start.sent <+: (run services start calls).sent from grows.2
  apply run_induction (fun _ exchange => start.sent <+: exchange.sent) standing List.prefix_rfl
  intro earlier call before answer after _ prior turn
  obtain ⟨reply, sent, _⟩ := perform_unsent turn
  rw [sent]
  exact prior.trans (List.prefix_append _ _)

end SqlGate.Handshake
