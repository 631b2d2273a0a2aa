import Std.Data.TreeMap.Lemmas
import SqlGate.Proofs.Handshake.Progress

/-!
# What the registries decide

With the accounts and schemas of two registries as its services, a login ends as
`verdict` says: by the registries at the deciding packet, the scramble of the
greeting, and the response that this packet settles.
-/

namespace SqlGate

set_option autoImplicit false

structure Registries where
  users : UserRegistry := {}
  schemas : SchemaRegistry := {}

def Registries.services (registries : Registries) : Services :=
  .ofRegistries registries.users registries.schemas

theorem SchemaRegistry.isSome_resolve (registry : SchemaRegistry) (name : String) :
    (registry.resolve name).isSome = registry.current.contains name :=
  Std.TreeMap.contains_eq_isSome_getElem?.symm

theorem Account.not_mayUse (account : Account) (name : String) :
    (!account.mayUse name) = (!account.grants.isEmpty && !account.grants.contains name) := by
  rw [mayUse, Bool.not_or]

namespace Handshake

/-- Schemas come before the password, and the password before the grants. -/
def verdict
    (registries : Registries)
    (scramble : Scramble)
    (username : String)
    (database : Option String)
    (response : Bytes) :
    Outcome :=
  if database.any fun name => !registries.schemas.current.contains name then
    .rejected .databaseDenied
  else
    match registries.users.get? username with
    | none => .rejected .accessDenied
    | some account =>
        if !account.verifies scramble.toList response then
          .rejected .accessDenied
        else if database.any fun name =>
            !account.grants.isEmpty && !account.grants.contains name then
          .rejected .databaseDenied
        else .authenticated

theorem isNone_requestedSchema (registries : Registries) (attempt : LoginAttempt) :
    (requestedSchema registries.services attempt).isNone =
      attempt.database.any fun name => !registries.schemas.current.contains name := by
  unfold requestedSchema
  cases attempt.database with
  | none => rfl
  | some name =>
      simp only [Option.isNone_map, Option.any_some]
      rw [← SchemaRegistry.isSome_resolve, Option.not_isSome]
      rfl

theorem check_registered
    (users : UserRegistry)
    (asked : Credentials)
    {account : Account}
    (registered : users.get? asked.username = some account) :
    users.check asked =
      if !account.verifies asked.scramble asked.authResponse then
        .error .accessDenied
      else if asked.database.any fun name =>
          !account.grants.isEmpty && !account.grants.contains name then
        .error .databaseDenied
      else .ok () := by
  have permitted : asked.database.all account.mayUse =
      !asked.database.any fun name =>
        !account.grants.isEmpty && !account.grants.contains name := by
    cases asked.database with
    | none => rfl
    | some name =>
        rw [Option.all_some, Option.any_some, ← Account.not_mayUse, Bool.not_not]
  simp only [UserRegistry.check, registered, permitted]
  cases account.verifies asked.scramble asked.authResponse with
  | false => rfl
  | true =>
      cases asked.database.any fun name =>
          !account.grants.isEmpty && !account.grants.contains name with
      | false => rfl
      | true => rfl

theorem check_unregistered
    (users : UserRegistry)
    (asked : Credentials)
    (unregistered : users.get? asked.username = none) :
    users.check asked = .error .accessDenied := by
  simp only [UserRegistry.check, unregistered]

/-- The services of two registries rule as `verdict` says. -/
theorem outcome_ruling
    (registries : Registries)
    (host : String)
    (challenge : Challenge)
    (attempt : LoginAttempt) :
    (ruling registries.services host challenge attempt).outcome =
      verdict registries challenge.scramble attempt.username attempt.database
        attempt.authResponse := by
  have missing := isNone_requestedSchema registries attempt
  unfold verdict
  rw [← missing]
  cases lacks : (requestedSchema registries.services attempt).isNone with
  | true =>
      have none := Option.isNone_iff_eq_none.mp lacks
      simp only [ruling, none]
      rfl
  | false =>
      rw [outcome_ruling_of_check _ _ _ _ lacks]
      simp only [Registries.services, Services.ofRegistries, UserRegistry.policy,
        Bool.false_eq_true, if_false]
      cases registered : registries.users.get? attempt.username with
      | none =>
          rw [check_unregistered registries.users _ registered]
          rfl
      | some account =>
          rw [check_registered registries.users _ registered]
          simp only [apply_ite Outcome.ofCheck]
          rfl

/-- A login with the right response fails only on its database. -/
theorem verdict_proved
    (registries : Registries)
    {scramble : Scramble}
    {username : String}
    {response : Bytes}
    {account : Account}
    (database : Option String)
    (registered : registries.users.get? username = some account)
    (verifies : account.verifies scramble.toList response = true) :
    verdict registries scramble username database response =
      if database.all fun name =>
          registries.schemas.current.contains name && account.mayUse name then .authenticated
      else .rejected .databaseDenied := by
  unfold verdict
  rw [registered]
  dsimp only
  rw [verifies]
  cases database with
  | none => rfl
  | some name =>
      rw [Option.any_some, Option.any_some, Option.all_some, ← Account.not_mayUse]
      cases registries.schemas.current.contains name with
      | false => rfl
      | true =>
          cases account.mayUse name with
          | false => rfl
          | true => rfl

/-- After a greeting, whatever calls came between and however the registries were
reloaded, a login ends by the registries in force at the packet that ends it. -/
theorem login_ends_as_the_registries_decide
    (ids : ConnectionIds)
    (serverVersion host : String)
    (backend : Backend)
    (scramble : Scramble)
    (earlier : List (Call Registries))
    (packet : Inbound Registries) :
    let start := Exchange.fresh ids serverVersion host backend
    let before := run Registries.services start (.greet scramble :: earlier)
    let answer := (perform Registries.services before packet.call).1
    let after := (perform Registries.services before packet.call).2
    (∃ greeting later,
      before.sent = ⟨0, .greeting greeting⟩ :: later ∧ greeting.scramble = scramble.toList) ∧
    (∀ problem,
      received earlier = [] → LoginPacket.decode packet.payload = .error problem →
        answer = .concluded (.rejected .badHandshake) ∧ after.handshake.phase = .rejected) ∧
    (∀ login response,
      Decides Registries.services (received earlier) packet login response →
        let outcome := verdict packet.source scramble login.username login.database response
        answer = .concluded outcome ∧ after.handshake.phase = outcome.phase) ∧
    ∀ outcome,
      answer = .concluded outcome → outcome.isTerminal = true →
        (received earlier = [] ∧ ∃ problem, LoginPacket.decode packet.payload = .error problem) ∨
          ∃ login response,
            Decides Registries.services (received earlier) packet login response := by
  intro start before answer after
  have came := progress_run Registries.services ids serverVersion host backend
    (.greet scramble :: earlier)
  have progress : Progress Registries.services start (some (scramble, received earlier)) before :=
    came.2
  refine ⟨?_, ?_, ?_, ?_⟩
  · obtain ⟨later, sent⟩ := progress.greeting_isPrefix
    exact ⟨_, later, sent.symm, Greeting.scramble_ofScramble ..⟩
  · intro problem first broken
    rw [first] at progress
    have phase : before.handshake.phase = .fastPath := by
      rw [progress.of_greeted]
      rfl
    have put : before.handshake.challenge = some (start.offer scramble) := by
      rw [progress.of_greeted]
      rfl
    have performed := perform_malformed Registries.services packet phase put broken
    exact ⟨congrArg Prod.fst performed,
      congrArg (fun result => result.2.handshake.phase) performed⟩
  · intro login response decides outcome
    obtain ⟨asking, _, performed⟩ := perform_decides progress decides rfl
    have decided := outcome_ruling packet.source host (start.offer scramble)
      (login.attempt response)
    constructor
    · exact (congrArg Prod.fst performed).trans (congrArg Answer.concluded decided)
    · exact (congrArg (fun result => result.2.handshake.phase) performed).trans
        (congrArg Outcome.phase decided)
  · intro outcome concluded ends
    have turn := turn_perform Registries.services came.1 packet.call
    obtain ⟨_, _, decider, opened, same, ending⟩ :=
      concluded_turn rfl progress turn concluded ends
    cases opened
    rw [Inbound.eq_of_call_eq same]
    exact ending

end Handshake

end SqlGate
