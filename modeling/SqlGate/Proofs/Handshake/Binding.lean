import SqlGate.Proofs.Handshake.Progress

/-!
# One challenge and one question

A connection has one challenge. The greeting puts it, and the context, a switch
request and the question to the policy all repeat it. The policy is asked at most
once, by the packet that decides the login.
-/

namespace SqlGate

set_option autoImplicit false

def ServerPacket.Shows (scramble : Scramble) (connectionId : UInt32) : ServerPacket → Prop
  | greeting packet => packet.scramble = scramble.toList ∧ packet.connectionId = connectionId
  | switchRequest request => request.data = scramble.toList
  | ok _ => True
  | err _ => True

namespace Handshake

variable {Source : Type}

/-- Everything in an exchange repeats the challenge of its greeting. -/
structure Bound (scramble : Scramble) (connectionId : UInt32) (exchange : Exchange) : Prop where
  greets : ∃ greeting later, exchange.sent = ⟨0, .greeting greeting⟩ :: later
  shows : ∀ outbound ∈ exchange.sent, outbound.packet.Shows scramble connectionId
  keeps : ∃ challenge,
    exchange.handshake.challenge = some challenge ∧
      challenge.scramble = scramble ∧ challenge.connectionId = connectionId
  asks : ∀ asked ∈ exchange.asked, asked.scramble = scramble.toList

/-- A login that the calls lead to and the policy is asked about: its schema
exists, and no packet after the login packet changes more than the response. -/
def Asks
    (services : Source → Services)
    (host : String)
    (calls : List (Call Source))
    (asked : Credentials) :
    Prop :=
  ∃ scramble earlier packet later login response,
    opening? calls = some (scramble, earlier ++ packet :: later) ∧
      Decides services earlier packet login response ∧
      (∀ name, login.database = some name →
        ((services packet.source).resolve name).isSome = true) ∧
      asked =
        { username := login.username
          host
          authResponse := response
          database := login.database
          scramble := scramble.toList }

inductive AsksOnce (services : Source → Services) (before : Exchange) :
    Call Source → Answer → Exchange → Prop where
  | silent
      (call : Call Source)
      (answer : Answer)
      (after : Exchange)
      (same : after.asked = before.asked) :
      AsksOnce services before call answer after
  | asks
      (packet : Inbound Source)
      (asked : Credentials)
      (outcome : Outcome)
      (after : Exchange)
      (adds : after.asked = before.asked ++ [asked])
      (follows : outcome = .ofCheck ((services packet.source).policy.check asked))
      (ends : outcome.isTerminal = true) :
      AsksOnce services before packet.call (.concluded outcome) after

theorem shows_ruling
    (services : Services)
    (host : String)
    (challenge : Challenge)
    (attempt : LoginAttempt)
    (scramble : Scramble)
    (connectionId : UInt32) :
    (ruling services host challenge attempt).packet.Shows scramble connectionId := by
  have ruled := ruled_ruling services host challenge attempt
  generalize ruling services host challenge attempt = verdict at ruled ⊢
  cases ruled <;> trivial

theorem isSome_requestedSchema (services : Services) (attempt : LoginAttempt) :
    (requestedSchema services attempt).isSome = true ↔
      ∀ name, attempt.database = some name → (services.resolve name).isSome = true := by
  unfold requestedSchema
  cases attempt.database with
  | none => simp only [Option.isSome_some, reduceCtorEq, false_implies, implies_true]
  | some name => simp only [Option.isSome_map, Option.some.injEq, forall_eq']

/-- The policy is asked about the attempt if the schema exists, and about nothing
else. -/
theorem asked_ruling
    (services : Services)
    (host : String)
    (challenge : Challenge)
    (attempt : LoginAttempt) :
    (ruling services host challenge attempt).asked =
      if (requestedSchema services attempt).isSome then
        [credentials host challenge attempt]
      else [] := by
  have ruled := ruled_ruling services host challenge attempt
  generalize ruling services host challenge attempt = verdict at ruled ⊢
  cases ruled with
  | unknownSchema missing =>
      rw [missing]
      rfl
  | refused schema code found denied =>
      rw [found]
      rfl
  | admitted schema found passed =>
      rw [found]
      rfl

theorem asksOnce_ruled
    {services : Source → Services}
    {before asking : Exchange}
    (packet : Inbound Source)
    {challenge : Challenge}
    {attempt : LoginAttempt}
    {verdict : Ruling}
    (made : verdict =
      ruling (services packet.source) before.handshake.host challenge attempt)
    (same : asking.asked = before.asked) :
    AsksOnce services before packet.call (.concluded verdict.outcome) (asking.ruled verdict) := by
  have ruled := ruled_ruling (services packet.source) before.handshake.host challenge attempt
  rw [← made] at ruled
  cases ruled with
  | unknownSchema missing =>
      apply AsksOnce.silent
      exact (List.append_nil _).trans same
  | refused schema code found denied =>
      apply AsksOnce.asks packet (credentials before.handshake.host challenge attempt)
      · exact congrArg (· ++ _) same
      · rw [denied]
        rfl
      · rfl
  | admitted schema found passed =>
      apply AsksOnce.asks packet (credentials before.handshake.host challenge attempt)
      · exact congrArg (· ++ _) same
      · rw [passed]
        rfl
      · rfl

theorem asksOnce_turn
    {services : Source → Services}
    {before after : Exchange}
    {call : Call Source}
    {answer : Answer}
    (turn : Turn services before call answer after) :
    AsksOnce services before call answer after := by
  cases turn with
  | greeted scramble phase unput => exact .silent _ _ _ rfl
  | greetedAlready scramble put phase => exact .silent _ _ _ rfl
  | malformed packet challenge problem phase put broken =>
      exact .silent _ _ _ (List.append_nil _)
  | judged packet challenge login phase put decoded plugin verdict made =>
      exact asksOnce_ruled packet made rfl
  | switched packet challenge login phase put decoded plugin => exact .silent _ _ _ rfl
  | judgedAnew packet challenge attempt phase put recorded verdict made =>
      exact asksOnce_ruled packet made rfl
  | untimely packet notFast notSwitched => exact .silent _ _ _ rfl

section Bound

variable {scramble : Scramble}
variable {connectionId : UInt32}
variable {exchange : Exchange}

theorem bound_greeted
    (start : Exchange)
    (scramble : Scramble)
    (unsent : start.sent = [])
    (unasked : start.asked = []) :
    Bound scramble start.ids.draw.1 (start.greeted scramble) where
  greets := by
    simp only [Exchange.greeted, unsent]
    exact ⟨_, [], rfl⟩
  shows := by
    simp only [Exchange.greeted, unsent, List.nil_append, List.mem_singleton]
    rintro outbound rfl
    exact ⟨Greeting.scramble_ofScramble .., rfl⟩
  keeps := ⟨start.offer scramble, rfl, rfl, rfl⟩
  asks := by
    simp only [Exchange.greeted, unasked, List.not_mem_nil, false_implies, implies_true]

theorem Bound.answering (bound : Bound scramble connectionId exchange) (sequence : UInt8) :
    Bound scramble connectionId (exchange.answering sequence) :=
  ⟨bound.greets, bound.shows, bound.keeps, bound.asks⟩

theorem Bound.recorded (bound : Bound scramble connectionId exchange) (login : LoginPacket) :
    Bound scramble connectionId (exchange.recorded login) := by
  refine ⟨bound.greets, bound.shows, ?_, bound.asks⟩
  obtain ⟨challenge, put, same⟩ := bound.keeps
  refine ⟨{ challenge with capabilities := login.capabilities }, ?_, same⟩
  simp only [Exchange.recorded, record, put, Option.map_some]

theorem Bound.responded
    (bound : Bound scramble connectionId exchange)
    (attempt : LoginAttempt)
    (response : Bytes) :
    Bound scramble connectionId (exchange.responded attempt response) :=
  ⟨bound.greets, bound.shows, bound.keeps, bound.asks⟩

theorem Bound.replied
    (bound : Bound scramble connectionId exchange)
    {packet : ServerPacket}
    (shows : packet.Shows scramble connectionId)
    (phase : Phase) :
    Bound scramble connectionId (exchange.replied packet phase) := by
  refine ⟨?_, ?_, bound.keeps, bound.asks⟩
  · obtain ⟨greeting, later, sent⟩ := bound.greets
    simp only [Exchange.replied, sent]
    exact ⟨greeting, _, rfl⟩
  · intro outbound member
    rcases List.mem_append.mp member with earlier | last
    · exact bound.shows outbound earlier
    · rw [List.mem_singleton.mp last]
      exact shows

theorem Bound.switched (bound : Bound scramble connectionId exchange) (plugin : String) :
    Bound scramble connectionId (exchange.switched plugin scramble) := by
  apply bound.replied
  exact rfl

theorem Bound.ruled
    (bound : Bound scramble connectionId exchange)
    (verdict : Ruling)
    (shows : verdict.packet.Shows scramble connectionId)
    (asks : ∀ asked ∈ verdict.asked, asked.scramble = scramble.toList) :
    Bound scramble connectionId (exchange.ruled verdict) := by
  have replied := bound.replied shows verdict.outcome.phase
  refine ⟨replied.greets, replied.shows, replied.keeps, ?_⟩
  intro asked member
  rcases List.mem_append.mp member with earlier | last
  · exact bound.asks asked earlier
  · exact asks asked last

theorem Bound.judged
    (bound : Bound scramble connectionId exchange)
    {services : Services}
    {host : String}
    {challenge : Challenge}
    {attempt : LoginAttempt}
    {verdict : Ruling}
    (made : verdict = ruling services host challenge attempt)
    (same : challenge.scramble = scramble) :
    Bound scramble connectionId (exchange.ruled verdict) := by
  subst made
  apply bound.ruled _ (shows_ruling ..)
  rw [asked_ruling]
  intro asked member
  split at member
  · rw [List.mem_singleton.mp member, ← same]
    rfl
  · cases member

theorem bound_progress
    {Source : Type}
    {services : Source → Services}
    {start final : Exchange}
    {scramble : Scramble}
    {packets : List (Inbound Source)}
    (unsent : start.sent = [])
    (unasked : start.asked = [])
    (progress : Progress services start (some (scramble, packets)) final) :
    Bound scramble start.ids.draw.1 final := by
  have greeted := bound_greeted start scramble unsent unasked
  cases progress with
  | awaitsLogin scramble => exact greeted
  | awaitsResponse scramble first login decoded plugin =>
      exact ((greeted.answering first.sequence).recorded login).switched _
  | malformed scramble first later problem broken =>
      apply (greeted.answering first.sequence).ruled .malformed trivial
      intro asked member
      cases member
  | judged scramble packet later login decoded plugin verdict made =>
      exact ((greeted.answering packet.sequence).recorded login).judged made rfl
  | judgedAnew scramble first packet later login decoded plugin verdict made =>
      have switched : Bound scramble start.ids.draw.1
          (switching services start scramble first login) :=
        ((greeted.answering first.sequence).recorded login).switched _
      exact ((switched.answering packet.sequence).responded _ _).judged made rfl

end Bound

section Asked

variable {services : Source → Services}
variable {start final : Exchange}
variable {scramble : Scramble}

/-- Once a login is decided, only the question about it was ever asked. -/
theorem asked_decided
    {earlier later : List (Inbound Source)}
    {packet : Inbound Source}
    {login : LoginPacket}
    {response : Bytes}
    (progress : Progress services start (some (scramble, earlier ++ packet :: later)) final)
    (decides : Decides services earlier packet login response) :
    final.asked =
      start.asked ++ (ruling (services packet.source) start.handshake.host (start.offer scramble)
        (login.attempt response)).asked := by
  obtain ⟨asking, unasked, _, _, rfl⟩ := progress.of_decided decides
  rw [← unasked]
  rfl

theorem decided_or_unasked
    {opening : Option (Scramble × List (Inbound Source))}
    (progress : Progress services start opening final) :
    final.asked = start.asked ∨
      ∃ scramble earlier packet later login response,
        opening = some (scramble, earlier ++ packet :: later) ∧
          Decides services earlier packet login response := by
  cases progress with
  | ungreeted => exact .inl rfl
  | awaitsLogin scramble => exact .inl rfl
  | awaitsResponse scramble first login decoded plugin => exact .inl rfl
  | malformed scramble first later problem broken => exact .inl (List.append_nil _)
  | judged scramble packet later login decoded plugin verdict made =>
      exact .inr ⟨scramble, [], packet, later, login, _, rfl,
        .atOnce packet login decoded plugin⟩
  | judgedAnew scramble first packet later login decoded plugin verdict made =>
      exact .inr ⟨scramble, [first], packet, later, login, _, rfl,
        .afterSwitch first packet login decoded plugin⟩

end Asked

theorem asked_run
    (services : Source → Services)
    (ids : ConnectionIds)
    (serverVersion host : String)
    (backend : Backend)
    (calls : List (Call Source)) :
    let start := Exchange.fresh ids serverVersion host backend
    (run services start calls).asked = [] ∨
      ∃ scramble earlier packet later login response,
        opening? calls = some (scramble, earlier ++ packet :: later) ∧
          Decides services earlier packet login response ∧
          (run services start calls).asked =
            (ruling (services packet.source) host (start.offer scramble)
              (login.attempt response)).asked := by
  intro start
  have progress := (progress_run services ids serverVersion host backend calls).2
  rcases decided_or_unasked progress with unasked | decided
  · exact .inl unasked
  · obtain ⟨scramble, earlier, packet, later, login, response, opened, decides⟩ := decided
    rw [opened] at progress
    exact .inr ⟨scramble, earlier, packet, later, login, response, opened, decides,
      asked_decided progress decides⟩

theorem length_asked_run
    (services : Source → Services)
    (ids : ConnectionIds)
    (serverVersion host : String)
    (backend : Backend)
    (calls : List (Call Source)) :
    (run services (.fresh ids serverVersion host backend) calls).asked.length ≤ 1 := by
  rcases asked_run services ids serverVersion host backend calls with unasked | decided
  · rw [unasked]
    exact Nat.zero_le 1
  · obtain ⟨scramble, earlier, packet, later, login, response, _, _, asked⟩ := decided
    rw [asked, asked_ruling]
    split
    · exact Nat.le_refl 1
    · exact Nat.zero_le 1

theorem mem_asked_run
    (services : Source → Services)
    (ids : ConnectionIds)
    (serverVersion host : String)
    (backend : Backend)
    (calls : List (Call Source))
    (asked : Credentials) :
    asked ∈ (run services (.fresh ids serverVersion host backend) calls).asked ↔
      Asks services host calls asked := by
  constructor
  · intro member
    rcases asked_run services ids serverVersion host backend calls with unasked | decided
    · rw [unasked] at member
      cases member
    · obtain ⟨scramble, earlier, packet, later, login, response, opened, decides, all⟩ := decided
      rw [all, asked_ruling] at member
      split at member
      · rename_i found
        exact ⟨scramble, earlier, packet, later, login, response, opened, decides,
          (isSome_requestedSchema _ _).mp found, List.mem_singleton.mp member⟩
      · cases member
  · rintro ⟨scramble, earlier, packet, later, login, response, opened, decides, resolves, rfl⟩
    have progress := (progress_run services ids serverVersion host backend calls).2
    rw [opened] at progress
    have found := (isSome_requestedSchema (services packet.source) (login.attempt response)).mpr
      resolves
    rw [asked_decided progress decides, asked_ruling, if_pos found]
    exact List.mem_singleton.mpr rfl

/-- A greeting is numbered only once, by the next free number. -/
theorem numbered_run
    (services : Source → Services)
    (ids : ConnectionIds)
    (serverVersion host : String)
    (backend : Backend)
    (calls : List (Call Source))
    (call : Call Source)
    {connectionId : UInt32}
    (numbered : (perform services
      (run services (.fresh ids serverVersion host backend) calls) call).1 =
        .numbered connectionId) :
    connectionId = ids.draw.1 := by
  have came := progress_run services ids serverVersion host backend calls
  have turn := turn_perform services came.1 call
  rw [numbered] at turn
  generalize (perform services (run services (.fresh ids serverVersion host backend) calls) call).2
    = after at turn
  cases turn with
  | greeted scramble phase unput =>
      rw [(came.2.of_initial phase).2]
      rfl

/-- Whatever the calls and the policy, a connection has one challenge, and its
policy hears of it at most once, from the packet that decides the login. -/
theorem one_challenge_and_one_question
    (services : Source → Services)
    (ids : ConnectionIds)
    (serverVersion host : String)
    (backend : Backend)
    (calls : List (Call Source)) :
    let start := Exchange.fresh ids serverVersion host backend
    let final := run services start calls
    (∀ scramble packets, opening? calls = some (scramble, packets) →
      Bound scramble ids.draw.1 final) ∧
    (opening? calls = none → final = start) ∧
    (∀ before call, Meets services start calls before call →
      (∀ connectionId, (perform services before call).1 = .numbered connectionId →
        connectionId = ids.draw.1) ∧
      AsksOnce services before call (perform services before call).1
        (perform services before call).2) ∧
    final.asked.length ≤ 1 ∧
    ∀ asked, asked ∈ final.asked ↔ Asks services host calls asked := by
  intro start final
  have progress := (progress_run services ids serverVersion host backend calls).2
  refine ⟨?_, ?_, ?_, length_asked_run .., mem_asked_run services ids serverVersion host backend
    calls⟩
  · intro scramble packets opened
    rw [opened] at progress
    exact bound_progress rfl rfl progress
  · intro unopened
    rw [unopened] at progress
    exact progress.of_none
  · intro before call meets
    obtain ⟨earlier, later, split, rfl⟩ := meets
    constructor
    · intro connectionId numbered
      exact numbered_run services ids serverVersion host backend earlier call numbered
    · have came := progress_run services ids serverVersion host backend earlier
      exact asksOnce_turn (turn_perform services came.1 call)

end Handshake

end SqlGate
