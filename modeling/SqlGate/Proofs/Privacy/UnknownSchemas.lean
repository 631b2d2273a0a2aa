import SqlGate.Proofs.Config.Consistency
import SqlGate.Proofs.Handshake.Decision
import SqlGate.Proofs.Privacy.Schemas
import SqlGate.Proofs.Text.Utf8

/-!
# Who hears that a schema is unknown

Accepted configurations grant only schemas that they have. So while users and schemas come
from one of them, a client hears that a schema is unknown only if every schema is granted to
it; any other request that fails is denied.
-/

namespace SqlGate

set_option autoImplicit false

namespace Config

def Unrestricted (config : Config) (username : Option String) : Prop :=
  ∃ name account,
    username = some name ∧ config.user? name = some account ∧ account.grants = []

variable {config : Config}

theorem unnamed_user? (consistent : config.Consistent) : config.user? "" = none := by
  apply List.find?_eq_none.mpr
  intro user listed
  simpa using consistent.sound.named user listed

/-- A schema that the configuration does not have is permitted to the unrestricted alone. -/
theorem permits_unknown
    (consistent : config.Consistent)
    {name : String}
    (unknown : config.schemas.contains name = false)
    (username : Option String) :
    config.userRegistry.permits (username.getD "") name = true ↔ config.Unrestricted username := by
  rw [UserRegistry.permits_iff]
  simp only [get?_userRegistry consistent]
  constructor
  · rintro ⟨account, registered, granted⟩
    cases username with
    | none =>
        rw [Option.getD_none, unnamed_user? consistent] at registered
        cases registered
    | some known =>
        refine ⟨known, account, rfl, registered, ?_⟩
        by_contra restricted
        -- Grants name only schemas of the configuration, and this one is not among them.
        have listed := (Account.mayUse_iff restricted name).mp granted
        have has := consistent.sound.granted account (List.mem_of_find?_eq_some registered) name
          listed
        exact Bool.false_ne_true (unknown.symm.trans has)
  · rintro ⟨known, account, rfl, registered, unrestricted⟩
    refine ⟨account, registered, ?_⟩
    rw [Account.mayUse, unrestricted]
    rfl

theorem resolve_eq_none (config : Config) (name : String) :
    config.schemaSnapshot.get? name = none ↔ config.schemas.contains name = false := by
  rw [get?_schemaSnapshot, Option.map_eq_none_iff, Std.TreeMap.contains_eq_isSome_getElem?,
    Option.isSome_eq_false_iff, Option.isNone_iff_eq_none]

/-- While the services go by the configuration, a request is told that the schema is unknown
exactly if the configuration lacks it and permits every schema to the user. -/
theorem respond_consistent
    (consistent : config.Consistent)
    {services : Services}
    (permits : services.policy.permits = config.userRegistry.permits)
    (resolve : ∀ name, services.resolve name = config.schemaSnapshot.get? name)
    (host : String)
    (sequence : UInt8)
    (backend : Backend)
    (body : Bytes) :
    ∃ packet,
      (Command.respond services host sequence (0x02 :: body) backend).reply =
        some ⟨sequence + 1, packet⟩ ∧
      (packet.errorNumber? = some 1049 ↔
        config.schemas.contains (Utf8.decodeLossy body) = false ∧
          config.Unrestricted backend.username) ∧
      (packet.isOk = false →
        packet.errorNumber? = some 1049 ∨ packet.errorNumber? = some 1044) := by
  have asked : Command.ofPayload (0x02 :: body) = .selectSchema (Utf8.decodeLossy body) := rfl
  generalize Utf8.decodeLossy body = name at asked ⊢
  have responds := Command.responds_respond services host backend sequence
    (0x02 :: body)
  generalize Command.respond services host sequence (0x02 :: body) backend = response
    at responds ⊢
  cases responds with
  | left asks => cases asked.symm.trans asks
  | alive asks => cases asked.symm.trans asks
  | unknown asks => cases asked.symm.trans asks
  | denied _ asks ungranted =>
      cases asked.symm.trans asks
      refine ⟨_, rfl, ⟨nofun, ?_⟩, fun _ => .inr rfl⟩
      rintro ⟨unknown, unrestricted⟩
      rw [permits] at ungranted
      have granted := (permits_unknown consistent unknown backend.username).mpr unrestricted
      cases ungranted.symm.trans granted
  | missing _ asks granted unresolved =>
      cases asked.symm.trans asks
      refine ⟨_, rfl, ⟨fun _ => ?_, fun _ => rfl⟩, fun _ => .inl rfl⟩
      rw [permits] at granted
      rw [resolve] at unresolved
      have unknown := (resolve_eq_none config name).mp unresolved
      exact ⟨unknown, (permits_unknown consistent unknown backend.username).mp granted⟩
  | selected _ schema asks granted found =>
      cases asked.symm.trans asks
      refine ⟨_, rfl, ⟨nofun, ?_⟩, nofun⟩
      rintro ⟨unknown, unrestricted⟩
      rw [resolve] at found
      have unresolved := (resolve_eq_none config name).mpr unknown
      cases unresolved.symm.trans found

end Config

/-! ## Loads -/

structure Accepted where
  environment : Environment
  text : String
  config : Config
  accepted : Config.ofText environment text = .ok config

theorem Accepted.consistent (source : Accepted) : source.config.Consistent :=
  Config.consistent_of_ofText source.accepted

/-- The registries of a server, and the configurations that they were last filled from. -/
structure Loaded where
  registries : Registries
  users : Accepted
  schemas : Accepted

inductive Load where
  | build (source : Accepted)
  | reloadUsers (source : Accepted)
  | reloadSchemas (source : Accepted)

namespace Loaded

def build (source : Accepted) : Loaded where
  registries :=
    { users := source.config.userRegistry
      schemas := { current := source.config.schemaSnapshot } }
  users := source
  schemas := source

def after (loaded : Loaded) : Load → Loaded
  | .build source => build source
  | .reloadUsers source =>
      { loaded with
        registries := { loaded.registries with users := source.config.userRegistry }
        users := source }
  | .reloadSchemas source =>
      { loaded with
        registries :=
          { loaded.registries with
            schemas := loaded.registries.schemas.reload source.config.schemaSnapshot }
        schemas := source }

def run (first : Accepted) (loads : List Load) : Loaded := loads.foldl after (build first)

structure Current (loaded : Loaded) : Prop where
  users : loaded.registries.users = loaded.users.config.userRegistry
  schemas : loaded.registries.schemas.current = loaded.schemas.config.schemaSnapshot

theorem current_after {loaded : Loaded} (current : loaded.Current) (load : Load) :
    (loaded.after load).Current := by
  cases load with
  | build source => exact ⟨rfl, rfl⟩
  | reloadUsers source => exact ⟨rfl, current.schemas⟩
  | reloadSchemas source => exact ⟨current.users, rfl⟩

theorem current_run (first : Accepted) (loads : List Load) : (run first loads).Current := by
  have start : (build first).Current := ⟨rfl, rfl⟩
  unfold run
  generalize build first = loaded at start
  induction loads generalizing loaded with
  | nil => exact start
  | cons load later ih => exact ih _ (current_after start load)

end Loaded

/-- However registries are built and reloaded from accepted configurations, while both are
filled from the same one a request for a schema is told that the schema is unknown exactly if
the configuration lacks it and its user is one whom no grants confine. Any other request that
fails is denied. -/
theorem only_the_unrestricted_hear_of_unknown_schemas
    (first : Accepted)
    (loads : List Load)
    (same : (Loaded.run first loads).users.config = (Loaded.run first loads).schemas.config)
    (host : String)
    (sequence : UInt8)
    (backend : Backend)
    (body : Bytes) :
    let loaded := Loaded.run first loads
    let config := loaded.users.config
    let response :=
      Command.respond loaded.registries.services host sequence (0x02 :: body) backend
    ∃ packet,
      response.reply = some ⟨sequence + 1, packet⟩ ∧
      (packet.errorNumber? = some 1049 ↔
        config.schemas.contains (Utf8.decodeLossy body) = false ∧
          config.Unrestricted backend.username) ∧
      (packet.isOk = false →
        packet.errorNumber? = some 1049 ∨ packet.errorNumber? = some 1044) := by
  intro loaded config response
  have current := Loaded.current_run first loads
  have consistent : config.Consistent := loaded.users.consistent
  have permits : loaded.registries.services.policy.permits = config.userRegistry.permits :=
    congrArg UserRegistry.permits current.users
  have resolve : ∀ name,
      loaded.registries.services.resolve name = config.schemaSnapshot.get? name := by
    intro name
    have filled := current.schemas
    rw [← same] at filled
    exact congrArg (SchemaSnapshot.get? · name) filled
  exact Config.respond_consistent consistent permits resolve host sequence backend body

def clerkAndRoot : String :=
  "users:\n- username: clerk\n  authorized_schemas:\n  - orders\n- username: root\n"
    ++ "schemas:\n  orders:\n    data_sources: []\nserver:\n  listen_port: 3307\n"

theorem accepted_clerkAndRoot :
    ∃ config,
      Config.ofText (fun _ => none) clerkAndRoot = .ok config ∧
        config.users =
          [{ username := "clerk", grants := ["orders"] }, { username := "root" }] ∧
        config.schemas.contains "ledger" = false := by
  have read : (Config.ofText (fun _ => none) clerkAndRoot).toOption.map
      (fun config => (config.users, config.schemas.contains "ledger")) =
        some ([{ username := "clerk", grants := ["orders"] }, { username := "root" }], false) := by
    decide +kernel
  obtain ⟨config, accepted, seen⟩ := Config.exists_ok_of_toOption read
  exact ⟨config, accepted, Prod.mk.inj seen⟩

theorem root_hears_of_the_ledger_and_clerk_does_not :
    ∃ source : Accepted,
      source.text = clerkAndRoot ∧
      let loaded := Loaded.run source [.reloadUsers source, .reloadSchemas source]
      let reply := fun username =>
        (Command.respond loaded.registries.services "localhost" 0
          (0x02 :: Utf8.encode "ledger") { username := some username }).reply
      (∃ packet, reply "root" = some ⟨1, packet⟩ ∧ packet.errorNumber? = some 1049) ∧
        ∃ packet, reply "clerk" = some ⟨1, packet⟩ ∧ packet.errorNumber? ≠ some 1049 := by
  obtain ⟨config, accepted, users, unknown⟩ := accepted_clerkAndRoot
  let source : Accepted := ⟨fun _ => none, clerkAndRoot, config, accepted⟩
  have hears := only_the_unrestricted_hear_of_unknown_schemas source
    [.reloadUsers source, .reloadSchemas source] rfl "localhost" 0
  refine ⟨source, rfl, ?_, ?_⟩
  · obtain ⟨packet, replied, told, _⟩ := hears { username := some "root" } (Utf8.encode "ledger")
    refine ⟨packet, replied, told.mpr ⟨?_, "root", { username := "root" }, rfl, ?_, rfl⟩⟩
    · rw [Utf8.decodeLossy_encode]
      exact unknown
    · change config.users.find? _ = _
      rw [users]
      rfl
  · obtain ⟨packet, replied, told, _⟩ := hears { username := some "clerk" } (Utf8.encode "ledger")
    refine ⟨packet, replied, fun hears => ?_⟩
    obtain ⟨_, name, account, same, registered, unrestricted⟩ := told.mp hears
    cases same
    change config.users.find? _ = _ at registered
    rw [users] at registered
    cases registered
    cases unrestricted

end SqlGate
