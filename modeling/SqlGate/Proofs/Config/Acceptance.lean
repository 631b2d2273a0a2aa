import SqlGate.Proofs.Config.Consistency

/-!
# Which configurations are accepted

A decoded configuration is accepted if the variables are set that its passwords need, and if it
is consistent once its user names are resolved. A refusal names something that is wrong. The
gate's own variables replace settings and have no say in this.
-/

namespace SqlGate

set_option autoImplicit false

def Environment.expandUser (environment : Environment) (user : Account) : Account :=
  { user with
    username := environment.expand user.username
    password := environment.expand user.password }

@[simp]
theorem Environment.username_expandUser (environment : Environment) (user : Account) :
    (environment.expandUser user).username = environment.expand user.username := rfl

@[simp]
theorem Environment.grants_expandUser (environment : Environment) (user : Account) :
    (environment.expandUser user).grants = user.grants := rfl

namespace Config

/-! ## Passwords -/

def missing? (environment : Environment) (password : String) : Option String :=
  if startsBraced password then
    (reference? password).filter fun name => (environment name).isNone
  else none

section Passwords

variable {environment : Environment}

theorem missing?_eq_some {password name : String} :
    missing? environment password = some name ↔
      startsBraced password = true ∧
        reference? password = some name ∧
        environment name = none := by
  by_cases braced : startsBraced password = true
  · simp [missing?, braced, Option.filter_eq_some_iff]
  · simp [missing?, braced]

theorem missing?_eq_none {password : String} :
    missing? environment password = none ↔
      ∀ name, startsBraced password = true → reference? password = some name →
        environment name ≠ none := by
  rw [Option.eq_none_iff_forall_ne_some]
  simp only [ne_eq, missing?_eq_some, not_and]

theorem resolvePassword_eq (environment : Environment) (username password : String) :
    resolvePassword environment username password =
      match missing? environment password with
      | some name => .error (.unsetPassword username name)
      | none => .ok (environment.expand password) := by
  unfold resolvePassword missing? Environment.expand
  cases refers : reference? password with
  | none => simp
  | some name =>
      by_cases braced : startsBraced password = true
      · cases value : environment name with
        | none => simp [braced, value, Option.filter_some]
        | some text => simp [braced, value, Option.filter_some]
      · simp [braced]

theorem resolveUser_eq (environment : Environment) (user : Account) :
    resolveUser environment user =
      match missing? environment user.password with
      | some name => .error (.unsetPassword (environment.expand user.username) name)
      | none => .ok (environment.expandUser user) := by
  unfold resolveUser
  dsimp only
  rw [resolvePassword_eq]
  cases missing? environment user.password with
  | some name => rfl
  | none => rfl

theorem mapM_resolveUser_cons (user : Account) (later : List Account) :
    (user :: later).mapM (resolveUser environment) =
      (resolveUser environment user).bind fun resolved =>
        (later.mapM (resolveUser environment)).map (resolved :: ·) := by
  rw [List.mapM_cons]
  cases resolveUser environment user with
  | error problem => rfl
  | ok resolved =>
      cases later.mapM (resolveUser environment) with
      | error problem => rfl
      | ok others => rfl

theorem mapM_resolveUser_of_set
    {users : List Account}
    (set : ∀ user ∈ users, missing? environment user.password = none) :
    users.mapM (resolveUser environment) = .ok (users.map environment.expandUser) := by
  induction users with
  | nil => rfl
  | cons user later ih =>
      rw [List.forall_mem_cons] at set
      rw [mapM_resolveUser_cons, resolveUser_eq, set.1, ih set.2]
      rfl

theorem set_of_mapM_resolveUser
    {users resolved : List Account}
    (resolves : users.mapM (resolveUser environment) = .ok resolved) :
    ∀ user ∈ users, missing? environment user.password = none := by
  induction users generalizing resolved with
  | nil => simp
  | cons user later ih =>
      rw [mapM_resolveUser_cons, resolveUser_eq, bind_eq_ok] at resolves
      obtain ⟨first, here, resolves⟩ := resolves
      obtain ⟨others, rest, _⟩ := map_eq_ok.mp resolves
      cases missing : missing? environment user.password with
      | some name =>
          rw [missing] at here
          cases here
      | none => exact List.forall_mem_cons.mpr ⟨missing, ih rest⟩

/-- If users cannot be resolved, some password needs a variable that is not set. -/
theorem unset_of_mapM_resolveUser
    {users : List Account}
    {problem : Problem}
    (fails : users.mapM (resolveUser environment) = .error problem) :
    ∃ user ∈ users, ∃ name,
      missing? environment user.password = some name ∧
        problem = .unsetPassword (environment.expand user.username) name := by
  induction users with
  | nil => cases fails
  | cons user later ih =>
      rw [mapM_resolveUser_cons, resolveUser_eq, bind_eq_error] at fails
      rcases fails with here | ⟨resolved, _, fails⟩
      · cases missing : missing? environment user.password with
        | some name =>
            rw [missing] at here
            cases here
            exact ⟨user, List.mem_cons_self, name, missing, rfl⟩
        | none =>
            rw [missing] at here
            cases here
      · obtain ⟨other, listed, blamed⟩ := ih (map_eq_error.mp fails)
        exact ⟨other, List.mem_cons_of_mem _ listed, blamed⟩

end Passwords

/-! ## Consistency -/

inductive Inconsistent (config : Config) : Problem → Prop where
  | noUsers (nobody : config.users = []) : Inconsistent config .noUsers
  | emptyUsername
      (user : Account)
      (listed : user ∈ config.users)
      (unnamed : user.username = "") :
      Inconsistent config .emptyUsername
  | duplicateUser
      (user : Account)
      (earlier later : List Account)
      (split : config.users = earlier ++ user :: later)
      (known : user.username ∈ earlier.map (·.username)) :
      Inconsistent config (.duplicateUser user.username)
  | unknownSchema
      (user : Account)
      (schema : String)
      (listed : user ∈ config.users)
      (granted : schema ∈ user.grants)
      (lacking : config.schemas.contains schema = false) :
      Inconsistent config (.unknownSchema user.username schema)
  | emptySchemaName (unlabelled : config.schemas.contains "" = true) :
      Inconsistent config .emptySchemaName

theorem inconsistent_of_checkUser
    {config : Config}
    {earlier later : List Account}
    {names : List String}
    {user : Account}
    {problem : Problem}
    (split : config.users = earlier ++ user :: later)
    (known : ∀ name ∈ names, name ∈ earlier.map (·.username))
    (fails : checkUser config.schemas names user = .error problem) :
    config.Inconsistent problem := by
  have listed : user ∈ config.users := by simp [split]
  unfold checkUser at fails
  split at fails
  · rename_i unnamed
    cases fails
    exact .emptyUsername user listed (String.isEmpty_iff.mp unnamed)
  · split at fails
    · rename_i again
      cases fails
      exact .duplicateUser user earlier later split (known _ (List.contains_iff_mem.mp again))
    · split at fails
      · rename_i schema found
        cases fails
        apply Inconsistent.unknownSchema user schema listed (List.mem_of_find?_eq_some found)
        simpa using List.find?_some found
      · cases fails

theorem inconsistent_of_checkUsers
    {config : Config}
    {earlier later : List Account}
    {names : List String}
    {problem : Problem}
    (split : config.users = earlier ++ later)
    (known : ∀ name ∈ names, name ∈ earlier.map (·.username))
    (fails : checkUsers config.schemas names later = .error problem) :
    config.Inconsistent problem := by
  induction later generalizing earlier names with
  | nil => cases fails
  | cons user later ih =>
      have steps : checkUsers config.schemas names (user :: later) =
        (checkUser config.schemas names user).bind fun _ =>
          checkUsers config.schemas (user.username :: names) later := rfl
      rw [steps, bind_eq_error] at fails
      rcases fails with here | ⟨_, _, fails⟩
      · exact inconsistent_of_checkUser split known here
      · have further : config.users = (earlier ++ [user]) ++ later := by simp [split]
        apply ih further _ fails
        intro name listed
        rcases List.mem_cons.mp listed with same | old
        · simp [same]
        · simp only [List.map_append, List.mem_append]
          exact .inl (known name old)

theorem inconsistent_of_validate
    {config : Config}
    {problem : Problem}
    (fails : config.validate = .error problem) :
    config.Inconsistent problem := by
  unfold validate at fails
  by_cases nobody : config.users.isEmpty = true
  · simp only [nobody, if_true] at fails
    cases fails
    exact .noUsers (List.isEmpty_iff.mp nobody)
  · simp only [nobody, Bool.false_eq_true, if_false] at fails
    cases checked : checkUsers config.schemas [] config.users with
    | error other =>
        rw [checked] at fails
        cases fails
        apply inconsistent_of_checkUsers (List.nil_append _).symm _ checked
        simp
    | ok passed =>
        rw [checked] at fails
        by_cases unlabelled : config.schemas.contains "" = true
        · simp only [unlabelled, if_true] at fails
          cases fails
          exact .emptySchemaName unlabelled
        · simp only [unlabelled, Bool.false_eq_true, if_false] at fails
          cases fails

/-- Only users and schemas are validated. -/
theorem validate_congr
    {config other : Config}
    (users : config.users = other.users)
    (schemas : config.schemas = other.schemas) :
    config.validate = other.validate := by
  unfold validate
  rw [users, schemas]

/-! ## Acceptance -/

def expanded (environment : Environment) (config : Config) : Config :=
  { config with
    users := config.users.map environment.expandUser
    server :=
      { config.server with listenAddress := environment.expand config.server.listenAddress } }

/-- The variables are set that the passwords need, and what is left once the user names are
resolved is consistent. -/
structure Acceptable (environment : Environment) (config : Config) : Prop where
  passwords : ∀ user ∈ config.users, ∀ name,
    startsBraced user.password = true → reference? user.password = some name →
      environment name ≠ none
  inhabited : config.users ≠ []
  named : ∀ user ∈ config.users, environment.expand user.username ≠ ""
  distinct : (config.users.map fun user => environment.expand user.username).Nodup
  granted : ∀ user ∈ config.users, ∀ schema ∈ user.grants, config.schemas.contains schema = true
  labelled : config.schemas.contains "" = false

inductive Refused (environment : Environment) (config : Config) : Problem → Prop where
  | unsetPassword
      (user : Account)
      (name : String)
      (listed : user ∈ config.users)
      (braced : startsBraced user.password = true)
      (refers : reference? user.password = some name)
      (unset : environment name = none) :
      Refused environment config (.unsetPassword (environment.expand user.username) name)
  | inconsistent
      (problem : Problem)
      (wrong : (config.expanded environment).Inconsistent problem) :
      Refused environment config problem

def settingNames : List String :=
  ["DBPROXY_LISTEN_ADDRESS", "DBPROXY_LISTEN_PORT", "DBPROXY_LOG_LEVEL",
    "DBPROXY_HANDSHAKE_TIMEOUT_SECS", "DBPROXY_MAX_CONNECTIONS"]

section Acceptance

variable {environment other : Environment}
variable {config : Config}

theorem acceptable_iff :
    Acceptable environment config ↔
      (∀ user ∈ config.users, missing? environment user.password = none) ∧
        (config.expanded environment).Consistent := by
  have usernames : (config.expanded environment).users.map (·.username) =
      config.users.map fun user => environment.expand user.username := by
    simp only [expanded, List.map_map]
    rfl
  constructor
  · intro acceptable
    refine ⟨fun user listed => missing?_eq_none.mpr (acceptable.passwords user listed), ?_, ?_, ?_⟩
    · simpa [expanded] using acceptable.inhabited
    · constructor
      · simpa [expanded] using acceptable.named
      · simp
      · rw [usernames]
        exact acceptable.distinct
      · simpa [expanded] using acceptable.granted
    · exact acceptable.labelled
  · rintro ⟨set, inhabited, sound, labelled⟩
    constructor
    · exact fun user listed => missing?_eq_none.mp (set user listed)
    · simpa [expanded] using inhabited
    · simpa [expanded] using sound.named
    · rw [← usernames]
      exact sound.distinct
    · simpa [expanded] using sound.granted
    · exact labelled

/-- Passwords are resolved first. The gate's own variables come before the validation, which
does not look at what they replace. -/
theorem finish_eq (environment : Environment) (config : Config) :
    finish environment config =
      (config.users.mapM (resolveUser environment)).bind fun _ =>
        (config.expanded environment).validate.map fun _ =>
          (config.expanded environment).override environment := by
  unfold finish resolve
  cases resolves : config.users.mapM (resolveUser environment) with
  | error problem => rfl
  | ok users =>
      cases resolves.symm.trans (mapM_resolveUser_of_set (set_of_mapM_resolveUser resolves))
      have same : ((config.expanded environment).override environment).validate =
          (config.expanded environment).validate := validate_congr rfl rfl
      change (((config.expanded environment).override environment).validate.bind fun _ =>
        .ok ((config.expanded environment).override environment)) = _
      rw [same]
      cases (config.expanded environment).validate with
      | error problem => rfl
      | ok passed => rfl

theorem finish_eq_ok {final : Config} :
    finish environment config = .ok final ↔
      Acceptable environment config ∧
        final = (config.expanded environment).override environment := by
  rw [acceptable_iff, finish_eq, bind_eq_ok]
  constructor
  · rintro ⟨users, resolves, accepts⟩
    obtain ⟨_, checked, rfl⟩ := map_eq_ok.mp accepts
    exact ⟨⟨set_of_mapM_resolveUser resolves, validate_eq_ok.mp checked⟩, rfl⟩
  · rintro ⟨⟨set, consistent⟩, rfl⟩
    exact ⟨_, mapM_resolveUser_of_set set, map_eq_ok.mpr ⟨(), validate_eq_ok.mpr consistent, rfl⟩⟩

theorem refused_of_finish {problem : Problem} (fails : finish environment config = .error problem) :
    Refused environment config problem := by
  rw [finish_eq, bind_eq_error] at fails
  rcases fails with unresolved | ⟨_, _, invalid⟩
  · obtain ⟨user, listed, name, missing, rfl⟩ := unset_of_mapM_resolveUser unresolved
    obtain ⟨braced, refers, unset⟩ := missing?_eq_some.mp missing
    exact .unsetPassword user name listed braced refers unset
  · exact .inconsistent _ (inconsistent_of_validate (map_eq_error.mp invalid))

/-! ### Settings -/

/-- What registries are built from. -/
def contents (config : Config) : List Account × Std.TreeMap String (List String) :=
  (config.users, config.schemas)

/-- The gate's own variables replace nothing of this. -/
theorem finish_contents (environment : Environment) (config : Config) :
    (finish environment config).map contents =
      (config.users.mapM (resolveUser environment)).bind fun users =>
        ({ config with users } : Config).validate.map fun _ => (users, config.schemas) := by
  rw [finish_eq]
  cases resolves : config.users.mapM (resolveUser environment) with
  | error problem => rfl
  | ok users =>
      cases resolves.symm.trans (mapM_resolveUser_of_set (set_of_mapM_resolveUser resolves))
      have same : (config.expanded environment).validate =
          ({ config with users := config.users.map environment.expandUser } : Config).validate :=
        validate_congr rfl rfl
      dsimp only [Except.bind]
      rw [same]
      cases Config.validate _ with
      | error problem => rfl
      | ok passed => rfl

theorem expand_congr
    {text : String}
    (same : ∀ name, reference? text = some name → other name = environment name) :
    other.expand text = environment.expand text := by
  unfold Environment.expand
  cases refers : reference? text with
  | none => rfl
  | some name => simp [same name refers]

theorem resolveUser_congr
    {user : Account}
    (inName : ∀ name, reference? user.username = some name → other name = environment name)
    (inPassword : ∀ name, reference? user.password = some name → other name = environment name) :
    resolveUser other user = resolveUser environment user := by
  have missing : missing? other user.password = missing? environment user.password := by
    unfold missing?
    cases refers : reference? user.password with
    | none => rfl
    | some name => simp [Option.filter_some, inPassword name refers]
  have expanded : other.expandUser user = environment.expandUser user := by
    simp only [Environment.expandUser, expand_congr inName, expand_congr inPassword]
  rw [resolveUser_eq, resolveUser_eq, missing, expanded, expand_congr inName]

theorem mapM_resolveUser_congr
    {users : List Account}
    (same : ∀ user ∈ users, resolveUser other user = resolveUser environment user) :
    users.mapM (resolveUser other) = users.mapM (resolveUser environment) := by
  induction users with
  | nil => rfl
  | cons user later ih =>
      rw [List.forall_mem_cons] at same
      rw [mapM_resolveUser_cons, mapM_resolveUser_cons, same.1, ih same.2]

end Acceptance

/-- A decoded configuration is accepted exactly if the variables are set that its passwords need
and it is consistent once its user names are resolved. It then has its users, resolved, and its
schemas; otherwise it is refused for something that is wrong with it. The gate's own variables
change none of this unless a user refers to one of them. -/
theorem accepted_iff_consistent_once_resolved (environment : Environment) (config : Config) :
    ((∃ final, finish environment config = .ok final) ↔ Acceptable environment config) ∧
    (∀ final, finish environment config = .ok final →
      final.users = config.users.map environment.expandUser ∧ final.schemas = config.schemas) ∧
    (¬ Acceptable environment config →
      ∃ problem,
        finish environment config = .error problem ∧ Refused environment config problem) ∧
    ∀ other : Environment,
      (∀ name, name ∉ settingNames → other name = environment name) →
      (∀ user ∈ config.users, ∀ name ∈ settingNames,
        reference? user.username ≠ some name ∧ reference? user.password ≠ some name) →
      (finish other config).map contents = (finish environment config).map contents := by
  refine ⟨⟨?_, ?_⟩, ?_, ?_, ?_⟩
  · rintro ⟨final, accepted⟩
    exact (finish_eq_ok.mp accepted).1
  · intro acceptable
    exact ⟨_, finish_eq_ok.mpr ⟨acceptable, rfl⟩⟩
  · intro final accepted
    obtain ⟨_, rfl⟩ := finish_eq_ok.mp accepted
    exact ⟨rfl, rfl⟩
  · intro unacceptable
    cases ends : finish environment config with
    | ok final => exact absurd (finish_eq_ok.mp ends).1 unacceptable
    | error problem => exact ⟨problem, rfl, refused_of_finish ends⟩
  · intro other elsewhere unreferred
    have resolves : config.users.mapM (resolveUser other) =
        config.users.mapM (resolveUser environment) := by
      apply mapM_resolveUser_congr
      intro user listed
      apply resolveUser_congr
      · intro name refers
        exact elsewhere name fun setting => (unreferred user listed name setting).1 refers
      · intro name refers
        exact elsewhere name fun setting => (unreferred user listed name setting).2 refers
    rw [finish_contents, finish_contents, resolves]

/-- The name and the password of the only user stand in variables. -/
def till : Config where
  server := { listenPort := 3307 }
  users := [{ username := "$TILL", password := "$\x7bSECRET\x7d", grants := ["orders"] }]
  schemas := Std.TreeMap.ofList [("orders", ["ds_0"])]

def tillEnvironment : Environment := fun name =>
  if name = "TILL" then some "cashier" else if name = "SECRET" then some "s3cret" else none

theorem till_is_accepted_on_any_port :
    let other : Environment := fun name =>
      if name = "DBPROXY_LISTEN_PORT" then some "7" else tillEnvironment name
    (∃ final, finish tillEnvironment till = .ok final) ∧
      (finish other till).map contents = (finish tillEnvironment till).map contents := by
  intro other
  obtain ⟨accepts, _, _, settings⟩ := accepted_iff_consistent_once_resolved tillEnvironment till
  have set : ∀ user ∈ till.users, missing? tillEnvironment user.password = none := by
    decide +kernel
  have validates : (till.expanded tillEnvironment).validate = .ok () := by
    decide +kernel
  constructor
  · exact accepts.mpr (acceptable_iff.mpr ⟨set, validate_eq_ok.mp validates⟩)
  · apply settings other
    · intro name free
      simp only [settingNames, List.mem_cons, not_or] at free
      exact if_neg free.2.1
    · decide +kernel

end Config

end SqlGate
