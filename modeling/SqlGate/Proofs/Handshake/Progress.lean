import SqlGate.Proofs.Handshake.Turn

/-!
# How far a handshake has come

The first greeting and the packets after it fix the whole state of a handshake.
`Progress` lists the states that they can lead to, and `progress_run` says that
every run is in the one that fits its calls. `Decides` says which packet decides
a login, and with which response.
-/

namespace SqlGate

set_option autoImplicit false

def Exchange.offer (exchange : Exchange) (scramble : Scramble) : Challenge where
  connectionId := exchange.ids.draw.1
  scramble := scramble

/-- The attempt of a login packet, with a response of its own or a later one. -/
def LoginPacket.attempt (login : LoginPacket) (response : Bytes) : LoginAttempt :=
  { LoginAttempt.ofPacket login with authResponse := response }

namespace Handshake

variable {Source : Type}

def received : List (Call Source) → List (Inbound Source)
  | [] => []
  | .greet _ :: rest => received rest
  | .receive source sequence payload :: rest => ⟨source, sequence, payload⟩ :: received rest

theorem received_append (earlier later : List (Call Source)) :
    received (earlier ++ later) = received earlier ++ received later := by
  induction earlier with
  | nil => rfl
  | cons call rest ih =>
      cases call with
      | greet scramble => exact ih
      | receive source sequence payload =>
          simp only [List.cons_append, received, ih]

def opening? : List (Call Source) → Option (Scramble × List (Inbound Source))
  | [] => none
  | .greet scramble :: rest => some (scramble, received rest)
  | .receive _ _ _ :: rest => opening? rest

theorem opening?_greet (calls : List (Call Source)) (scramble : Scramble) :
    opening? (calls ++ [.greet scramble]) = (opening? calls).or (some (scramble, [])) := by
  induction calls with
  | nil => rfl
  | cons call rest ih =>
      cases call with
      | greet first =>
          simp only [List.cons_append, opening?, received_append, received, List.append_nil,
            Option.or_some]
          rfl
      | receive source sequence payload => exact ih

theorem opening?_receive (calls : List (Call Source)) (packet : Inbound Source) :
    opening? (calls ++ [packet.call]) =
      (opening? calls).map fun opening => (opening.1, opening.2 ++ [packet]) := by
  induction calls with
  | nil => rfl
  | cons call rest ih =>
      cases call with
      | greet first => simp only [List.cons_append, opening?, received_append, Option.map_some]; rfl
      | receive source sequence payload => exact ih

/-- A packet decides a login if it is a login packet whose response was made by
the policy's plugin, or if it follows a login packet whose response was not. -/
inductive Decides (services : Source → Services) :
    List (Inbound Source) → Inbound Source → LoginPacket → Bytes → Prop where
  | atOnce
      (packet : Inbound Source)
      (login : LoginPacket)
      (decoded : LoginPacket.decode packet.payload = .ok login)
      (plugin : negotiated login (services packet.source).policy.plugin = true) :
      Decides services [] packet login login.authResponse
  | afterSwitch
      (first packet : Inbound Source)
      (login : LoginPacket)
      (decoded : LoginPacket.decode first.payload = .ok login)
      (plugin : negotiated login (services first.source).policy.plugin = false) :
      Decides services [first] packet login packet.payload

def switching
    (services : Source → Services)
    (start : Exchange)
    (scramble : Scramble)
    (first : Inbound Source)
    (login : LoginPacket) :
    Exchange :=
  (((start.greeted scramble).answering first.sequence).recorded login).switched
    (services first.source).policy.plugin scramble

/-- The state that the first greeting and the packets after it lead to. -/
inductive Progress (services : Source → Services) (start : Exchange) :
    Option (Scramble × List (Inbound Source)) → Exchange → Prop where
  | ungreeted : Progress services start none start
  | awaitsLogin (scramble : Scramble) :
      Progress services start (some (scramble, [])) (start.greeted scramble)
  | awaitsResponse
      (scramble : Scramble)
      (first : Inbound Source)
      (login : LoginPacket)
      (decoded : LoginPacket.decode first.payload = .ok login)
      (plugin : negotiated login (services first.source).policy.plugin = false) :
      Progress services start (some (scramble, [first]))
        (switching services start scramble first login)
  | malformed
      (scramble : Scramble)
      (first : Inbound Source)
      (later : List (Inbound Source))
      (problem : WireError)
      (broken : LoginPacket.decode first.payload = .error problem) :
      Progress services start (some (scramble, first :: later))
        (((start.greeted scramble).answering first.sequence).ruled .malformed)
  | judged
      (scramble : Scramble)
      (packet : Inbound Source)
      (later : List (Inbound Source))
      (login : LoginPacket)
      (decoded : LoginPacket.decode packet.payload = .ok login)
      (plugin : negotiated login (services packet.source).policy.plugin = true)
      (verdict : Ruling)
      (made : verdict =
        ruling (services packet.source) start.handshake.host (start.offer scramble)
          (login.attempt login.authResponse)) :
      Progress services start (some (scramble, packet :: later))
        ((((start.greeted scramble).answering packet.sequence).recorded login).ruled verdict)
  | judgedAnew
      (scramble : Scramble)
      (first packet : Inbound Source)
      (later : List (Inbound Source))
      (login : LoginPacket)
      (decoded : LoginPacket.decode first.payload = .ok login)
      (plugin : negotiated login (services first.source).policy.plugin = false)
      (verdict : Ruling)
      (made : verdict =
        ruling (services packet.source) start.handshake.host (start.offer scramble)
          (login.attempt packet.payload)) :
      Progress services start (some (scramble, first :: packet :: later))
        ((((switching services start scramble first login).answering packet.sequence).responded
          (.ofPacket login) packet.payload).ruled verdict)

section Progress

variable {services : Source → Services}
variable {start before after : Exchange}
variable {opening : Option (Scramble × List (Inbound Source))}

theorem Progress.of_none (progress : Progress services start none before) : before = start := by
  cases progress with
  | ungreeted => rfl

theorem Progress.of_greeted
    {scramble : Scramble}
    (progress : Progress services start (some (scramble, [])) before) :
    before = start.greeted scramble := by
  cases progress with
  | awaitsLogin scramble => rfl

theorem isTerminal_ruled
    (exchange : Exchange)
    {verdict : Ruling}
    (ends : verdict.outcome.isTerminal = true) :
    (exchange.ruled verdict).handshake.phase.isTerminal = true := by
  simp only [Exchange.ruled, Exchange.replied]
  cases outcome : verdict.outcome with
  | switchRequested => simp only [outcome, Outcome.isTerminal, Bool.false_eq_true] at ends
  | authenticated => rfl
  | rejected code => rfl

/-- A handshake that has not ended waits in one of three states. -/
theorem Progress.ended_or_waits (progress : Progress services start opening before) :
    before.handshake.phase.isTerminal = true ∨
      (opening = none ∧ before = start) ∨
      (∃ scramble, opening = some (scramble, []) ∧ before = start.greeted scramble) ∨
      ∃ scramble first login,
        opening = some (scramble, [first]) ∧
        LoginPacket.decode first.payload = .ok login ∧
        negotiated login (services first.source).policy.plugin = false ∧
        before = switching services start scramble first login := by
  cases progress with
  | ungreeted => exact .inr (.inl ⟨rfl, rfl⟩)
  | awaitsLogin scramble => exact .inr (.inr (.inl ⟨scramble, rfl, rfl⟩))
  | awaitsResponse scramble first login decoded plugin =>
      exact .inr (.inr (.inr ⟨scramble, first, login, rfl, decoded, plugin, rfl⟩))
  | malformed scramble first later problem broken => exact .inl rfl
  | judged scramble packet later login decoded plugin verdict made =>
      apply Or.inl
      apply isTerminal_ruled
      rw [made]
      exact ruling_isTerminal ..
  | judgedAnew scramble first packet later login decoded plugin verdict made =>
      apply Or.inl
      apply isTerminal_ruled
      rw [made]
      exact ruling_isTerminal ..

theorem Progress.of_initial
    (progress : Progress services start opening before)
    (phase : before.handshake.phase = .initial) :
    opening = none ∧ before = start := by
  rcases progress.ended_or_waits with ended | waits | ⟨scramble, _, rfl⟩ |
    ⟨scramble, first, login, _, _, _, rfl⟩
  · rw [phase] at ended
    cases ended
  · exact waits
  · cases phase
  · cases phase

theorem Progress.of_fastPath
    (initial : start.handshake.phase = .initial)
    (progress : Progress services start opening before)
    (phase : before.handshake.phase = .fastPath) :
    ∃ scramble, opening = some (scramble, []) ∧ before = start.greeted scramble := by
  rcases progress.ended_or_waits with ended | ⟨_, rfl⟩ | waits |
    ⟨scramble, first, login, _, _, _, rfl⟩
  · rw [phase] at ended
    cases ended
  · rw [initial] at phase
    cases phase
  · exact waits
  · cases phase

theorem Progress.of_methodMismatch
    (initial : start.handshake.phase = .initial)
    (progress : Progress services start opening before)
    (phase : before.handshake.phase = .methodMismatch) :
    ∃ scramble first login,
      opening = some (scramble, [first]) ∧
      LoginPacket.decode first.payload = .ok login ∧
      negotiated login (services first.source).policy.plugin = false ∧
      before = switching services start scramble first login := by
  rcases progress.ended_or_waits with ended | ⟨_, rfl⟩ | ⟨scramble, _, rfl⟩ | waits
  · rw [phase] at ended
    cases ended
  · rw [initial] at phase
    cases phase
  · cases phase
  · exact waits

theorem Progress.append
    (progress : Progress services start opening before)
    (packet : Inbound Source)
    (notFast : before.handshake.phase ≠ .fastPath)
    (notSwitched : before.handshake.phase ≠ .methodMismatch) :
    Progress services start
      (opening.map fun opening => (opening.1, opening.2 ++ [packet])) before := by
  cases progress with
  | ungreeted => exact .ungreeted
  | awaitsLogin scramble => exact absurd rfl notFast
  | awaitsResponse scramble first login decoded plugin => exact absurd rfl notSwitched
  | malformed scramble first later problem broken =>
      exact .malformed scramble first (later ++ [packet]) problem broken
  | judged scramble decider later login decoded plugin verdict made =>
      exact .judged scramble decider (later ++ [packet]) login decoded plugin verdict made
  | judgedAnew scramble first decider later login decoded plugin verdict made =>
      exact .judgedAnew scramble first decider (later ++ [packet]) login decoded plugin verdict made

theorem Progress.greet_again
    (progress : Progress services start opening before)
    (scramble : Scramble)
    (put : before.handshake.challenge.isSome = true)
    (unput : start.handshake.challenge = none) :
    Progress services start (opening.or (some (scramble, []))) before := by
  cases opening with
  | none =>
      cases progress with
      | ungreeted =>
          rw [unput] at put
          cases put
  | some opening => exact progress

theorem progress_turn
    {call : Call Source}
    {answer : Answer}
    {calls : List (Call Source)}
    (initial : start.handshake.phase = .initial)
    (unput : start.handshake.challenge = none)
    (progress : Progress services start (opening? calls) before)
    (turn : Turn services before call answer after) :
    Progress services start (opening? (calls ++ [call])) after := by
  cases turn with
  | greeted scramble phase unput =>
      obtain ⟨unopened, rfl⟩ := progress.of_initial phase
      rw [opening?_greet, unopened]
      exact .awaitsLogin scramble
  | greetedAlready scramble put phase =>
      rw [opening?_greet]
      exact progress.greet_again scramble put unput
  | malformed packet challenge problem phase put broken =>
      obtain ⟨scramble, opened, rfl⟩ := progress.of_fastPath initial phase
      rw [opening?_receive, opened]
      exact .malformed scramble packet [] problem broken
  | judged packet challenge login phase put decoded plugin verdict made =>
      obtain ⟨scramble, opened, rfl⟩ := progress.of_fastPath initial phase
      cases put
      rw [opening?_receive, opened]
      exact .judged scramble packet [] login decoded plugin verdict made
  | switched packet challenge login phase put decoded plugin =>
      obtain ⟨scramble, opened, rfl⟩ := progress.of_fastPath initial phase
      cases put
      rw [opening?_receive, opened]
      exact .awaitsResponse scramble packet login decoded plugin
  | judgedAnew packet challenge attempt phase put recorded verdict made =>
      obtain ⟨scramble, first, login, opened, decoded, plugin, rfl⟩ :=
        progress.of_methodMismatch initial phase
      cases put
      cases recorded
      rw [opening?_receive, opened]
      exact .judgedAnew scramble first packet [] login decoded plugin verdict made
  | untimely packet notFast notSwitched =>
      rw [opening?_receive]
      exact progress.append packet notFast notSwitched

/-- A run is where its first greeting and the packets after it have led. -/
theorem progress_run
    (services : Source → Services)
    (ids : ConnectionIds)
    (serverVersion host : String)
    (backend : Backend)
    (calls : List (Call Source)) :
    let start := Exchange.fresh ids serverVersion host backend
    Standing (run services start calls).handshake ∧
      Progress services start (opening? calls) (run services start calls) := by
  intro start
  apply run_induction (fun calls exchange => Progress services start (opening? calls) exchange)
    (standing_fresh ids serverVersion host backend) .ungreeted
  intro earlier before call answer after standing progress turn
  exact progress_turn rfl rfl progress turn

theorem Progress.greeting_isPrefix
    {scramble : Scramble}
    {packets : List (Inbound Source)}
    (progress : Progress services start (some (scramble, packets)) before) :
    (start.greeted scramble).sent <+: before.sent := by
  cases progress with
  | awaitsLogin scramble => exact List.prefix_rfl
  | awaitsResponse scramble first login decoded plugin => exact List.prefix_append _ _
  | malformed scramble first later problem broken => exact List.prefix_append _ _
  | judged scramble packet later login decoded plugin verdict made => exact List.prefix_append _ _
  | judgedAnew scramble first packet later login decoded plugin verdict made =>
      exact (List.prefix_append _ _).trans (List.prefix_append _ _)

theorem Progress.sequences
    {scramble : Scramble}
    {packets : List (Inbound Source)}
    (unsent : start.sent = [])
    (progress : Progress services start (some (scramble, packets)) before) :
    before.sent.length ≤ 3 ∧
      before.sent.length ≤ packets.length + 1 ∧
      before.sent.map (·.sequence) =
        0 :: (packets.take (before.sent.length - 1)).map (·.sequence + 1) := by
  cases progress <;>
    simp [Exchange.greeted, Exchange.ruled, Exchange.replied, Exchange.recorded,
      Exchange.responded, Exchange.answering, Exchange.switched, switching, ReplyStream.emit,
      ReplyStream.greeting, ReplyStream.replyTo, record, unsent]

theorem perform_decides
    {scramble : Scramble}
    {earlier : List (Inbound Source)}
    {packet : Inbound Source}
    {login : LoginPacket}
    {response : Bytes}
    (progress : Progress services start (some (scramble, earlier)) before)
    (decides : Decides services earlier packet login response)
    {verdict : Ruling}
    (made : verdict =
      ruling (services packet.source) start.handshake.host (start.offer scramble)
        (login.attempt response)) :
    ∃ asking : Exchange,
      asking.asked = before.asked ∧
        perform services before packet.call =
          (.concluded verdict.outcome, asking.ruled verdict) := by
  cases decides with
  | atOnce packet login decoded plugin =>
      rw [progress.of_greeted]
      refine ⟨((start.greeted scramble).answering packet.sequence).recorded login, rfl, ?_⟩
      exact perform_negotiated services packet rfl rfl decoded plugin made
  | afterSwitch first packet login decoded plugin =>
      cases progress with
      | awaitsResponse _ _ recorded read _ =>
          cases decoded.symm.trans read
          let asking := (switching services start scramble first login).answering packet.sequence
          -- The client's abilities are in the challenge by now, but no ruling reads them.
          have put : (switching services start scramble first login).handshake.challenge =
              some { start.offer scramble with capabilities := login.capabilities } := rfl
          refine ⟨asking.responded (.ofPacket login) packet.payload, rfl, ?_⟩
          exact perform_switchAnswer services packet rfl put rfl made
      | malformed _ _ _ problem broken => cases decoded.symm.trans broken
      | judged _ _ _ recorded read negotiates _ _ =>
          cases decoded.symm.trans read
          cases plugin.symm.trans negotiates

theorem Progress.of_decided
    {scramble : Scramble}
    {earlier later : List (Inbound Source)}
    {packet : Inbound Source}
    {login : LoginPacket}
    {response : Bytes}
    (progress : Progress services start (some (scramble, earlier ++ packet :: later)) before)
    (decides : Decides services earlier packet login response) :
    ∃ asking : Exchange,
      asking.asked = start.asked ∧
        asking.backend = (start.greeted scramble).backend ∧
        asking.handshake.replies.nextSequence = packet.sequence + 1 ∧
        before = asking.ruled (ruling (services packet.source) start.handshake.host
          (start.offer scramble) (login.attempt response)) := by
  -- The state names a deciding packet of its own, and the packets admit only one.
  cases decides with
  | atOnce packet login decoded plugin =>
      cases progress with
      | awaitsResponse _ _ recorded read switches =>
          cases decoded.symm.trans read
          cases plugin.symm.trans switches
      | malformed _ _ _ problem broken => cases decoded.symm.trans broken
      | judged _ _ _ recorded read _ verdict made =>
          cases decoded.symm.trans read
          rw [← made]
          exact ⟨((start.greeted scramble).answering packet.sequence).recorded login, rfl, rfl, rfl,
            rfl⟩
      | judgedAnew _ _ _ _ recorded read switches verdict made =>
          cases decoded.symm.trans read
          cases plugin.symm.trans switches
  | afterSwitch first packet login decoded plugin =>
      cases progress with
      | malformed _ _ _ problem broken => cases decoded.symm.trans broken
      | judged _ _ _ recorded read negotiates verdict made =>
          cases decoded.symm.trans read
          cases plugin.symm.trans negotiates
      | judgedAnew _ _ _ _ recorded read _ verdict made =>
          cases decoded.symm.trans read
          rw [← made]
          let asking := (switching services start scramble first login).answering packet.sequence
          exact ⟨asking.responded (.ofPacket login) packet.payload, rfl, rfl, rfl, rfl⟩

/-- Nothing but a malformed login packet or a deciding packet ends a login. -/
theorem concluded_turn
    {call : Call Source}
    {answer : Answer}
    {outcome : Outcome}
    (initial : start.handshake.phase = .initial)
    (progress : Progress services start opening before)
    (turn : Turn services before call answer after)
    (concluded : answer = .concluded outcome)
    (ends : outcome.isTerminal = true) :
    ∃ scramble earlier packet,
      opening = some (scramble, earlier) ∧ call = packet.call ∧
        ((earlier = [] ∧ ∃ problem, LoginPacket.decode packet.payload = .error problem) ∨
          ∃ login response, Decides services earlier packet login response) := by
  cases turn with
  | greeted scramble phase unput => cases concluded
  | greetedAlready scramble put phase => cases concluded
  | malformed packet challenge problem phase put broken =>
      obtain ⟨scramble, opened, rfl⟩ := progress.of_fastPath initial phase
      exact ⟨scramble, [], packet, opened, rfl, .inl ⟨rfl, problem, broken⟩⟩
  | judged packet challenge login phase put decoded plugin verdict made =>
      obtain ⟨scramble, opened, rfl⟩ := progress.of_fastPath initial phase
      exact ⟨scramble, [], packet, opened, rfl,
        .inr ⟨login, _, .atOnce packet login decoded plugin⟩⟩
  | switched packet challenge login phase put decoded plugin =>
      cases concluded
      cases ends
  | judgedAnew packet challenge attempt phase put recorded verdict made =>
      obtain ⟨scramble, first, login, opened, decoded, plugin, rfl⟩ :=
        progress.of_methodMismatch initial phase
      exact ⟨scramble, [first], packet, opened, rfl,
        .inr ⟨login, _, .afterSwitch first packet login decoded plugin⟩⟩
  | untimely packet notFast notSwitched => cases concluded

end Progress

end Handshake

end SqlGate
