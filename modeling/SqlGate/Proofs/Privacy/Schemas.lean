import SqlGate.Proofs.Privacy.Accounts
import SqlGate.Proofs.Session.Commands

/-!
# What a user with grants learns of the schemas

Nothing of those outside the grants. A login asks first whether a schema exists, and a
command first whether it is granted. In both a schema outside the grants is denied in
the same words whether or not it exists.
-/

namespace SqlGate

set_option autoImplicit false

/-- While the user is registered they have grants, and the two registries have the same
schemas under the granted names. -/
def Confines
    (users : UserRegistry)
    (schemas others : SchemaRegistry)
    (username : String) :
    Prop :=
  ∀ account, users.get? username = some account →
    account.grants ≠ [] ∧ ∀ name ∈ account.grants, schemas.resolve name = others.resolve name

theorem Account.mayUse_iff {account : Account} (restricted : account.grants ≠ []) (name : String) :
    account.mayUse name = true ↔ name ∈ account.grants := by
  have listed : account.grants.isEmpty = false := by
    cases grants : account.grants with
    | nil => exact absurd grants restricted
    | cons first rest => rfl
  rw [mayUse, listed, Bool.false_or, List.contains_iff_mem]

theorem Account.mayUse_eq_false
    {account : Account}
    {name : String}
    (restricted : account.grants ≠ [])
    (outside : name ∉ account.grants) :
    account.mayUse name = false := by
  apply eq_false_of_ne_true
  intro granted
  exact outside ((mayUse_iff restricted name).mp granted)

theorem UserRegistry.permits_iff {users : UserRegistry} {username name : String} :
    users.permits username name = true ↔
      ∃ account, users.get? username = some account ∧ account.mayUse name = true := by
  rw [permits]
  cases users.get? username <;> simp

namespace Handshake

variable {Source : Type}

def Proved
    (users : Source → UserRegistry)
    (schemas : Source → SchemaRegistry)
    (username : String)
    (calls : List (Call Source)) :
    Prop :=
  ∀ scramble packet login response,
    Settles (native users schemas) calls scramble packet login response →
      login.username = username ∧
        ∃ account,
          (users packet.source).get? username = some account ∧
            account.verifies scramble.toList response = true

/-- A ruling consults no more of the services than the schema that is asked for and one
answer of the policy. -/
theorem ruling_of_check
    {services others : Services}
    {host : String}
    {challenge : Challenge}
    {attempt : LoginAttempt}
    (schema : requestedSchema services attempt = requestedSchema others attempt)
    (check : services.policy.check (credentials host challenge attempt) =
      others.policy.check (credentials host challenge attempt)) :
    ruling services host challenge attempt = ruling others host challenge attempt := by
  simp only [ruling, schema, check]

section Ruling

variable {users : UserRegistry}
variable {schemas others : SchemaRegistry}
variable {host : String}
variable {challenge : Challenge}
variable {attempt : LoginAttempt}
variable {account : Account}

/-- Whether or not the schema exists, a proved login is denied one that the account may
not use. -/
theorem ruling_ungranted
    {name : String}
    (registered : users.get? attempt.username = some account)
    (verifies : account.verifies challenge.scramble.toList attempt.authResponse = true)
    (asks : attempt.database = some name)
    (ungranted : account.mayUse name = false) :
    (ruling (.ofRegistries users schemas) host challenge attempt).outward =
      .refusal .databaseDenied [attempt.username, host, name] [] := by
  have words : refusalValues host attempt .databaseDenied = [attempt.username, host, name] := by
    rw [refusalValues, asks, Option.getD_some]
  have denied : users.check (credentials host challenge attempt) = .error .databaseDenied := by
    simp [UserRegistry.check, credentials, registered, verifies, asks, ungranted]
  have check : (Services.ofRegistries users schemas).policy.check
      (credentials host challenge attempt) = .error .databaseDenied := denied
  cases found : requestedSchema (.ofRegistries users schemas) attempt with
  | none =>
      simp only [ruling, found, words]
      rfl
  | some schema =>
      simp only [ruling, found, check, words]
      rfl

theorem ruling_confined
    (registered : users.get? attempt.username = some account)
    (verifies : account.verifies challenge.scramble.toList attempt.authResponse = true)
    (restricted : account.grants ≠ [])
    (agree : ∀ name ∈ account.grants, schemas.resolve name = others.resolve name) :
    (ruling (.ofRegistries users schemas) host challenge attempt).outward =
      (ruling (.ofRegistries users others) host challenge attempt).outward := by
  cases asks : attempt.database with
  | none =>
      apply congrArg Ruling.outward
      refine ruling_of_check ?_ rfl
      rw [requestedSchema, requestedSchema, asks]
  | some name =>
      cases granted : account.mayUse name with
      | true =>
          have same := agree name ((Account.mayUse_iff restricted name).mp granted)
          apply congrArg Ruling.outward
          refine ruling_of_check ?_ rfl
          rw [requestedSchema, requestedSchema, asks]
          exact congrArg (Option.map some) same
      | false =>
          rw [ruling_ungranted registered verifies asks granted,
            ruling_ungranted registered verifies asks granted]

end Ruling

end Handshake

namespace Command

def responses {Source : Type} (services : Source → Services) (host : String) :
    Backend → List (Handshake.Inbound Source) → List Response
  | _, [] => []
  | backend, packet :: rest =>
      let response := respond (services packet.source) host packet.sequence packet.payload backend
      response :: responses services host response.backend rest

section Confined

variable {users : UserRegistry}
variable {schemas others : SchemaRegistry}
variable {username : String}
variable {backend : Backend}

theorem selectSchemaFor_confined
    (confines : Confines users schemas others username)
    (host name : String)
    (user : backend.username = some username) :
    selectSchemaFor (.ofRegistries users schemas) host name backend =
      selectSchemaFor (.ofRegistries users others) host name backend := by
  simp only [selectSchemaFor, Services.ofRegistries, UserRegistry.policy, user, Option.getD_some]
  -- Grants come first, so only a granted name is ever looked up.
  cases permitted : users.permits username name with
  | false => rfl
  | true =>
      obtain ⟨account, registered, granted⟩ := UserRegistry.permits_iff.mp permitted
      obtain ⟨restricted, agree⟩ := confines account registered
      have same := agree name ((Account.mayUse_iff restricted name).mp granted)
      rw [if_pos rfl, if_pos rfl, same]

theorem respond_confined
    (confines : Confines users schemas others username)
    (host : String)
    (sequence : UInt8)
    (payload : Bytes)
    (user : backend.username = some username) :
    respond (.ofRegistries users schemas) host sequence payload backend =
      respond (.ofRegistries users others) host sequence payload backend := by
  unfold respond
  cases ofPayload payload with
  | quit => rfl
  | ping => rfl
  | selectSchema name =>
      have same := selectSchemaFor_confined confines host name user
      simp only [same]
  | unknown => rfl

/-- A command for a schema that is not granted is denied in the words of a login for it. -/
theorem respond_ungranted
    {account : Account}
    {name : String}
    {payload : Bytes}
    (host : String)
    (sequence : UInt8)
    (user : backend.username = some username)
    (registered : users.get? username = some account)
    (asks : ofPayload payload = .selectSchema name)
    (ungranted : account.mayUse name = false) :
    respond (.ofRegistries users schemas) host sequence payload backend =
      ⟨.goOn,
        some ⟨sequence + 1, .err (ErrorCode.databaseDenied.packet [username, host, name])⟩,
        backend⟩ := by
  have denied : users.permits username name = false := by
    rw [UserRegistry.permits, registered, Option.any_some, ungranted]
  have refuses : selectSchemaFor (.ofRegistries users schemas) host name backend =
      .error (.databaseDenied, [username, host, name]) := by
    simp only [selectSchemaFor, Services.ofRegistries, UserRegistry.policy, user,
      Option.getD_some, denied]
    rfl
  simp only [respond, asks, refuses]
  rfl

end Confined

theorem responses_confined
    {Source : Type}
    {users : Source → UserRegistry}
    {schemas others : Source → SchemaRegistry}
    {username : String}
    (confines : ∀ source, Confines (users source) (schemas source) (others source) username)
    (host : String)
    {backend : Backend}
    (packets : List (Handshake.Inbound Source))
    (user : backend.username = some username) :
    responses (Handshake.native users schemas) host backend packets =
      responses (Handshake.native users others) host backend packets := by
  induction packets generalizing backend with
  | nil => rfl
  | cons packet rest ih =>
      have same : respond (Handshake.native users schemas packet.source) host packet.sequence
          packet.payload backend =
            respond (Handshake.native users others packet.source) host packet.sequence
              packet.payload backend :=
        respond_confined (confines packet.source) host packet.sequence packet.payload user
      have stays := username_respond (Handshake.native users others packet.source) host backend
        packet.sequence packet.payload
      rw [responses, responses, same, ih (stays.trans user)]

end Command

namespace Handshake

variable {Source : Type}
variable {users : Source → UserRegistry}
variable {schemas others : Source → SchemaRegistry}
variable {username : String}
variable {calls : List (Call Source)}

theorem ruleAlike_confined
    (confines : ∀ source, Confines (users source) (schemas source) (others source) username)
    (proved : Proved users schemas username calls)
    (start : Exchange) :
    RuleAlike (native users schemas) (native users others) start calls := by
  intro scramble packet login response settles
  obtain ⟨rfl, account, registered, verifies⟩ := proved scramble packet login response settles
  obtain ⟨restricted, agree⟩ := confines packet.source account registered
  exact @ruling_confined _ _ _ _ (start.offer scramble) (login.attempt response) account registered
    verifies restricted agree

/-- Two registries of schemas that agree on the grants of a user are the same to that user,
whose proved logins and whose commands are answered alike. A login or a command for a
schema outside the grants is denied, in words that name the schema that was asked for. -/
theorem ungranted_schemas_are_invisible
    (users : Source → UserRegistry)
    (schemas others : Source → SchemaRegistry)
    (username : String)
    (confines : ∀ source, Confines (users source) (schemas source) (others source) username) :
    (∀ ids serverVersion host backend calls, Proved users schemas username calls →
      let start := Exchange.fresh ids serverVersion host backend
      observe (native users schemas) start calls = observe (native users others) start calls ∧
        ∀ scramble packet login response account name,
          Settles (native users schemas) calls scramble packet login response →
            (users packet.source).get? username = some account →
              login.database = some name → name ∉ account.grants →
          let final := run (native users schemas) start calls
          final.handshake.phase = .rejected ∧
            final.backend = { backend with connectionId := ids.draw.1 } ∧
            final.sent.getLast? = some ⟨packet.sequence + 1,
              .err (ErrorCode.databaseDenied.packet [username, host, name])⟩) ∧
    (∀ host backend packets, backend.username = some username →
      Command.responses (native users schemas) host backend packets =
        Command.responses (native users others) host backend packets) ∧
    ∀ source host sequence payload backend account name, backend.username = some username →
      (users source).get? username = some account →
        Command.ofPayload payload = .selectSchema name → name ∉ account.grants →
          Command.respond (native users schemas source) host sequence payload backend =
            ⟨.goOn,
              some ⟨sequence + 1, .err (ErrorCode.databaseDenied.packet [username, host, name])⟩,
              backend⟩ := by
  refine ⟨?_, ?_, ?_⟩
  · intro ids serverVersion host backend calls proved start
    constructor
    · have plugins : ∀ source, (native users schemas source).policy.plugin =
          (native users others source).policy.plugin := fun _ => rfl
      exact (observe_alike ids serverVersion host backend plugins calls
        (ruleAlike_confined confines proved start)).1
    · intro scramble packet login response account name settles registered asks outside
      obtain ⟨rfl, proving, found, verifies⟩ := proved scramble packet login response settles
      cases registered.symm.trans found
      have restricted := (confines packet.source account registered).1
      have ungranted := Account.mayUse_eq_false restricted outside
      have denied := @ruling_ungranted _ (schemas packet.source) host (start.offer scramble)
        (login.attempt response) account name registered verifies asks ungranted
      exact run_of_refusal ids serverVersion host backend settles denied
  · intro host backend packets user
    exact Command.responses_confined confines host packets user
  · intro source host sequence payload backend account name user registered asks outside
    have restricted := (confines source account registered).1
    have ungranted := Account.mayUse_eq_false restricted outside
    exact Command.respond_ungranted host sequence user registered asks ungranted

def clerk : Account where
  username := "clerk"
  grants := ["orders"]

def ledgerLogin : LoginPacket where
  capabilities := .serverDefault
  username := "clerk"
  database := some "ledger"
  plugin := some nativePasswordPlugin

def ledgerPacket : Inbound Unit := ⟨(), 1, ledgerLogin.encode⟩

def ledgerSelection : Inbound Unit := ⟨(), 0, 0x02 :: Utf8.encode "ledger"⟩

theorem ledger_is_invisible_to_clerk :
    let users := fun _ : Unit => UserRegistry.ofList [clerk]
    let kept := native users fun _ => .ofList [{ name := "orders" }, { name := "ledger" }]
    let missing := native users fun _ => .ofList [{ name := "orders" }]
    let start := Exchange.fresh {} defaultServerVersion "localhost" {}
    let calls := [Call.greet (FixedBytes.zero 20), ledgerPacket.call]
    observe kept start calls = observe missing start calls ∧
      Command.responses kept "localhost" { username := some "clerk" } [ledgerSelection] =
        Command.responses missing "localhost" { username := some "clerk" } [ledgerSelection] := by
  intro users kept missing start calls
  have confines : ∀ source : Unit, Confines (users source)
      (.ofList [{ name := "orders" }, { name := "ledger" }])
      (.ofList [{ name := "orders" }]) "clerk" := by
    intro source account registered
    rw [UserRegistry.get?_singleton registered]
    refine ⟨by decide, ?_⟩
    intro name granted
    rw [List.mem_singleton.mp granted]
    decide +kernel
  have decoded : LoginPacket.decode ledgerPacket.payload = .ok ledgerLogin := by decide +kernel
  have invisible := ungranted_schemas_are_invisible users _ _ "clerk" confines
  constructor
  · refine (invisible.1 {} defaultServerVersion "localhost" {} calls ?_).1
    intro scramble packet login response settles
    obtain ⟨_, _, read, rfl⟩ := settles_first settles
    cases decoded.symm.trans read
    exact ⟨rfl, clerk, by decide +kernel, rfl⟩
  · exact invisible.2.1 "localhost" _ [ledgerSelection] rfl

end Handshake

end SqlGate
