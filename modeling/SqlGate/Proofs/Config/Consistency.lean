import SqlGate.Config.Load
import SqlGate.Proofs.Registry

/-!
# Accepted configurations

A configuration is accepted if it is consistent: it has users, each with a name of their
own and with grants for schemas that it has, and none of its schemas lacks a name. The
registries that are built from it find just what it says.
-/

namespace SqlGate.Config

set_option autoImplicit false

theorem bind_eq_ok
    {Value Result : Type}
    {first : Except Problem Value}
    {next : Value → Except Problem Result}
    {result : Result} :
    first.bind next = .ok result ↔ ∃ value, first = .ok value ∧ next value = .ok result := by
  cases first with
  | error problem => simp [Except.bind]
  | ok value => simp [Except.bind]

theorem bind_eq_error
    {Value Result : Type}
    {first : Except Problem Value}
    {next : Value → Except Problem Result}
    {problem : Problem} :
    first.bind next = .error problem ↔
      first = .error problem ∨ ∃ value, first = .ok value ∧ next value = .error problem := by
  cases first with
  | error problem => simp [Except.bind]
  | ok value => simp [Except.bind]

theorem map_eq_ok
    {Value Result : Type}
    {first : Except Problem Value}
    {convert : Value → Result}
    {result : Result} :
    first.map convert = .ok result ↔ ∃ value, first = .ok value ∧ convert value = result := by
  cases first with
  | error problem => simp [Except.map]
  | ok value => simp [Except.map]

theorem map_eq_error
    {Value Result : Type}
    {first : Except Problem Value}
    {convert : Value → Result}
    {problem : Problem} :
    first.map convert = .error problem ↔ first = .error problem := by
  cases first with
  | error problem => simp [Except.map]
  | ok value => simp [Except.map]

/-- What shows a part of a value shows that there is one. -/
theorem exists_ok_of_toOption
    {Error Value Part : Type}
    {result : Except Error Value}
    {view : Value → Part}
    {seen : Part}
    (read : result.toOption.map view = some seen) :
    ∃ value, result = .ok value ∧ view value = seen := by
  cases result with
  | error _ => cases read
  | ok value => exact ⟨value, rfl, Option.some.inj read⟩

/-! ## Users -/

/-- Users whose names are their own, also among those of earlier users, and whose grants are
for schemas that there are. -/
structure Sound
    (schemas : Std.TreeMap String (List String))
    (earlier : List String)
    (users : List Account) :
    Prop where
  named : ∀ user ∈ users, user.username ≠ ""
  fresh : ∀ user ∈ users, user.username ∉ earlier
  distinct : (users.map (·.username)).Nodup
  granted : ∀ user ∈ users, ∀ name ∈ user.grants, schemas.contains name = true

section Users

variable {schemas : Std.TreeMap String (List String)}
variable {earlier : List String}

theorem sound_singleton {user : Account} :
    Sound schemas earlier [user] ↔
      user.username ≠ "" ∧
        user.username ∉ earlier ∧
        ∀ name ∈ user.grants, schemas.contains name = true := by
  constructor
  · rintro ⟨named, fresh, _, granted⟩
    exact ⟨named user List.mem_cons_self, fresh user List.mem_cons_self,
      granted user List.mem_cons_self⟩
  · rintro ⟨named, fresh, granted⟩
    exact ⟨List.forall_mem_singleton.mpr named, List.forall_mem_singleton.mpr fresh,
      List.pairwise_singleton _ _, List.forall_mem_singleton.mpr granted⟩

theorem checkUser_eq_ok {user : Account} :
    checkUser schemas earlier user = .ok () ↔ Sound schemas earlier [user] := by
  unfold checkUser
  split
  · rename_i empty
    refine ⟨nofun, fun sound => ?_⟩
    exact absurd (String.isEmpty_iff.mp empty) (sound.named user List.mem_cons_self)
  · rename_i named
    split
    · rename_i known
      refine ⟨nofun, fun sound => ?_⟩
      exact absurd (List.contains_iff_mem.mp known) (sound.fresh user List.mem_cons_self)
    · rename_i fresh
      split
      · rename_i name missing
        refine ⟨nofun, fun sound => ?_⟩
        have lacks := List.find?_some missing
        have has := sound.granted user List.mem_cons_self name (List.mem_of_find?_eq_some missing)
        rw [has] at lacks
        cases lacks
      · rename_i granted
        refine ⟨fun _ => sound_singleton.mpr ⟨?_, ?_, ?_⟩, fun _ => rfl⟩
        · exact fun empty => named (String.isEmpty_iff.mpr empty)
        · exact fun known => fresh (List.contains_iff_mem.mpr known)
        · intro name listed
          simpa using List.find?_eq_none.mp granted name listed

theorem sound_cons {user : Account} {later : List Account} :
    Sound schemas earlier (user :: later) ↔
      Sound schemas earlier [user] ∧ Sound schemas (user.username :: earlier) later := by
  rw [sound_singleton]
  constructor
  · rintro ⟨named, fresh, distinct, granted⟩
    rw [List.forall_mem_cons] at named fresh granted
    obtain ⟨new, distinct⟩ := List.nodup_cons.mp distinct
    refine ⟨⟨named.1, fresh.1, granted.1⟩, named.2, ?_, distinct, granted.2⟩
    intro other listed known
    rcases List.mem_cons.mp known with same | known
    · exact new (List.mem_map.mpr ⟨other, listed, same⟩)
    · exact fresh.2 other listed known
  · rintro ⟨⟨named, unknown, granted⟩, rest⟩
    have apart : ∀ other ∈ later, other.username ≠ user.username ∧ other.username ∉ earlier := by
      intro other listed
      have fresh := rest.fresh other listed
      rwa [List.mem_cons, not_or] at fresh
    constructor
    · exact List.forall_mem_cons.mpr ⟨named, rest.named⟩
    · exact List.forall_mem_cons.mpr ⟨unknown, fun other listed => (apart other listed).2⟩
    · refine List.nodup_cons.mpr ⟨?_, rest.distinct⟩
      intro again
      obtain ⟨other, listed, same⟩ := List.mem_map.mp again
      exact (apart other listed).1 same
    · exact List.forall_mem_cons.mpr ⟨granted, rest.granted⟩

theorem checkUsers_eq_ok {users : List Account} :
    checkUsers schemas earlier users = .ok () ↔ Sound schemas earlier users := by
  induction users generalizing earlier with
  | nil => exact ⟨fun _ => ⟨nofun, nofun, .nil, nofun⟩, fun _ => rfl⟩
  | cons user later ih =>
      have steps : checkUsers schemas earlier (user :: later) =
        (checkUser schemas earlier user).bind fun _ =>
          checkUsers schemas (user.username :: earlier) later := rfl
      rw [steps, bind_eq_ok, sound_cons]
      constructor
      · rintro ⟨_, checked, rest⟩
        exact ⟨checkUser_eq_ok.mp checked, ih.mp rest⟩
      · rintro ⟨first, rest⟩
        exact ⟨(), checkUser_eq_ok.mpr first, ih.mpr rest⟩

end Users

/-! ## Configurations -/

structure Consistent (config : Config) : Prop where
  inhabited : config.users ≠ []
  sound : Sound config.schemas [] config.users
  labelled : config.schemas.contains "" = false

theorem validate_eq_ok {config : Config} : config.validate = .ok () ↔ config.Consistent := by
  cases populated : config.users.isEmpty with
  | true =>
      have steps : config.validate = .error .noUsers := by
        unfold validate
        rw [populated]
        rfl
      rw [steps]
      refine ⟨nofun, fun consistent => ?_⟩
      exact absurd (List.isEmpty_iff.mp populated) consistent.inhabited
  | false =>
      have steps : config.validate = (checkUsers config.schemas [] config.users).bind fun _ =>
          if config.schemas.contains "" then .error .emptySchemaName else .ok () := by
        unfold validate
        rw [populated]
        rfl
      rw [steps, bind_eq_ok]
      constructor
      · rintro ⟨_, checked, labelled⟩
        refine ⟨?_, checkUsers_eq_ok.mp checked, ?_⟩
        · intro nobody
          rw [nobody] at populated
          cases populated
        · apply eq_false_of_ne_true
          intro unlabelled
          rw [unlabelled] at labelled
          cases labelled
      · rintro ⟨_, sound, labelled⟩
        refine ⟨(), checkUsers_eq_ok.mpr sound, ?_⟩
        rw [labelled]
        rfl

theorem consistent_of_ofText
    {environment : Environment}
    {text : String}
    {config : Config}
    (accepted : ofText environment text = .ok config) :
    config.Consistent := by
  obtain ⟨decoded, _, finishes⟩ := bind_eq_ok.mp accepted
  obtain ⟨resolved, _, validates⟩ := bind_eq_ok.mp finishes
  obtain ⟨_, sound, same⟩ := bind_eq_ok.mp validates
  cases same
  exact validate_eq_ok.mp sound

/-! ## Registries -/

theorem get?_userRegistry {config : Config} (consistent : config.Consistent) (username : String) :
    config.userRegistry.get? username = config.user? username := by
  apply Option.ext
  intro account
  rw [userRegistry, UserRegistry.get?_ofList_eq_some consistent.sound.distinct, user?,
    find?_eq_some_of_distinct consistent.sound.distinct]

def schemaOf (entry : String × List String) : Schema where
  name := entry.1
  dataSources := entry.2

theorem schemaSnapshot_eq (config : Config) :
    config.schemaSnapshot = .ofList (config.schemas.toList.map schemaOf) := rfl

theorem get?_schemaSnapshot (config : Config) (name : String) :
    config.schemaSnapshot.get? name =
      config.schemas[name]?.map fun dataSources => { name, dataSources } := by
  have names : (config.schemas.toList.map schemaOf).map (·.name) = config.schemas.keys := by
    rw [List.map_map, ← Std.TreeMap.map_fst_toList_eq_keys]
    rfl
  have distinct := names ▸ config.schemas.nodup_keys
  apply Option.ext
  intro schema
  rw [schemaSnapshot_eq, SchemaSnapshot.get?_ofList_eq_some distinct, List.mem_map,
    Option.map_eq_some_iff]
  constructor
  · rintro ⟨⟨⟨key, dataSources⟩, listed, rfl⟩, rfl⟩
    exact ⟨dataSources, Std.TreeMap.mem_toList_iff_getElem?_eq_some.mp listed, rfl⟩
  · rintro ⟨dataSources, found, rfl⟩
    exact ⟨⟨(name, dataSources), Std.TreeMap.mem_toList_iff_getElem?_eq_some.mpr found, rfl⟩, rfl⟩

end SqlGate.Config
