import Mathlib.Data.Fintype.EquivFin
import SqlGate.Proofs.Config.Consistency

/-!
# The registries of an accepted configuration

A configuration finds the first user of a name, and a registry the last one; where no schemas
are granted, all are. In a configuration that was accepted each name has one user, so that the
registries that are filled from it, at first or by a reload, say what it says.
-/

namespace SqlGate

set_option autoImplicit false

structure Account.StandsFor (account entry : Account) : Prop where
  username : account.username = entry.username
  verifies : ∀ scramble response,
    account.verifies scramble response =
      if entry.password = "" then response.isEmpty
      else NativePassword.verifies entry.password scramble response
  mayUse : ∀ schema, account.mayUse schema = true ↔ entry.grants = [] ∨ schema ∈ entry.grants
  mayUseAll : (∀ schema, account.mayUse schema = true) ↔ entry.grants = []

theorem Account.standsFor_self (account : Account) : account.StandsFor account := by
  have granted : ∀ schema,
      account.mayUse schema = true ↔ account.grants = [] ∨ schema ∈ account.grants := by
    simp [Account.mayUse]
  constructor
  · rfl
  · simp [Account.verifies, Account.hasEmptyPassword]
  · exact granted
  · constructor
    · intro all
      -- There are more names than any list of grants has.
      obtain ⟨schema, ungranted⟩ := Infinite.exists_notMem_finset account.grants.toFinset
      rw [List.mem_toFinset] at ungranted
      exact ((granted schema).mp (all schema)).resolve_right ungranted
    · intro unrestricted schema
      exact (granted schema).mpr (.inl unrestricted)

namespace Config

structure Served (config : Config) (users : UserRegistry) (schemas : SchemaRegistry) : Prop where
  userKnown : ∀ username, (users.get? username).isSome = (config.user? username).isSome
  userSame : ∀ username entry,
    config.user? username = some entry →
      ∃ account, users.get? username = some account ∧ account.StandsFor entry
  userCount : users.size = config.users.length
  schemaKnown : ∀ name, (schemas.resolve name).isSome = config.schemas.contains name
  schemaSame : ∀ name dataSources,
    config.schemas[name]? = some dataSources →
      schemas.resolve name = some { name, dataSources }
  nameKnown : ∀ name, name ∈ schemas.current.names ↔ config.schemas.contains name = true
  namesAscend : schemas.current.names.Pairwise (· < ·)

theorem contains_schemaSnapshot (config : Config) (name : String) :
    config.schemaSnapshot.contains name = config.schemas.contains name := by
  rw [SchemaSnapshot.contains_eq, get?_schemaSnapshot, Option.isSome_map,
    Std.TreeMap.contains_eq_isSome_getElem?]

/-- No two users of a consistent configuration are merged into one. -/
theorem size_userRegistry {config : Config} (consistent : config.Consistent) :
    config.userRegistry.size = config.users.length := by
  rw [userRegistry, UserRegistry.size_ofList, consistent.sound.distinct.dedup, List.length_map]

/-- How often a registry was reloaded before is of no account. -/
theorem served_of_consistent
    {config : Config}
    (consistent : config.Consistent)
    (generation : UInt64) :
    config.Served config.userRegistry { current := config.schemaSnapshot, generation } := by
  constructor
  · intro username
    rw [get?_userRegistry consistent]
  · intro username entry found
    exact ⟨entry, (get?_userRegistry consistent username).trans found, entry.standsFor_self⟩
  · exact size_userRegistry consistent
  · intro name
    rw [SchemaRegistry.resolve, ← SchemaSnapshot.contains_eq, contains_schemaSnapshot]
  · intro name dataSources listed
    rw [SchemaRegistry.resolve, get?_schemaSnapshot, listed, Option.map_some]
  · intro name
    rw [SchemaSnapshot.mem_names, contains_schemaSnapshot]
  · exact SchemaSnapshot.pairwise_names _

/-- The registries of an accepted configuration say what it says, whether they are built from it
or whether earlier registries, whatever they had, are reloaded from it. -/
theorem registries_follow_the_configuration
    {environment : Environment}
    {text : String}
    {config : Config}
    (accepted : ofText environment text = .ok config)
    (earlierUsers : UserRegistry)
    (earlierSchemas : SchemaRegistry) :
    config.Served config.userRegistry { current := config.schemaSnapshot } ∧
      config.Served (earlierUsers.reload config.users)
        (earlierSchemas.reload config.schemaSnapshot) := by
  have consistent := consistent_of_ofText accepted
  constructor
  · exact served_of_consistent consistent 0
  · exact served_of_consistent consistent (earlierSchemas.generation + 1)

def tellers : String :=
  "users:\n- username: ann\n  authorized_schemas: [books]\n- username: bob\n"
    ++ "schemas:\n  books:\n    data_sources: [ds]\nserver:\n  listen_port: 1\n"

theorem tellers_replace_earlier_users :
    ∃ config,
      ofText (fun _ => none) tellers = .ok config ∧
        config.Served ((UserRegistry.ofList [{ username := "carl" }]).reload config.users)
          ((SchemaRegistry.ofList [{ name := "archive" }]).reload config.schemaSnapshot) := by
  cases read : ofText (fun _ => none) tellers with
  | error problem =>
      have accepts : (ofText (fun _ => none) tellers).toOption.isSome = true := by
        decide +kernel
      rw [read] at accepts
      cases accepts
  | ok config =>
      exact ⟨config, rfl, (registries_follow_the_configuration read _ _).2⟩

end Config

end SqlGate
