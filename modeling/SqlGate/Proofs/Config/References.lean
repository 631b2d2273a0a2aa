import Mathlib.Data.List.Forall2
import SqlGate.Proofs.Config.Acceptance

/-!
# References to variables

A text refers to a variable in one of three ways, or is taken as it is written. What becomes of
a user name and of a password follows from the way. A password that begins like a reference in
braces never stays as it is written: where its variable is not set, nothing is loaded.
-/

namespace SqlGate

set_option autoImplicit false

/-! ## Ways to refer -/

inductive Reference where
  | braced (name : String)
  /-- The name begins with an opening brace that nothing closes. -/
  | unclosed (name : String)
  | bare (name : String)
  | literal
deriving DecidableEq, Repr

namespace Reference

def name? : Reference → Option String
  | braced name | unclosed name | bare name => some name
  | literal => none

/-- The variable without which a password is refused. -/
def required? : Reference → Option String
  | braced name | unclosed name => some name
  | bare _ | literal => none

def text (environment : Environment) (written : String) : Reference → String
  | braced name | unclosed name | bare name => (environment name).getD written
  | literal => written

def password? (environment : Environment) (written : String) : Reference → Option String
  | braced name | unclosed name => environment name
  | bare name => some ((environment name).getD written)
  | literal => some written

/-- A text and the way in which it refers. Braces may hold any name. Without them there are no
spaces, and more than the dollar sign. -/
inductive Reads : String → Reference → Prop where
  | braced (name : String) : Reads ("$\x7b" ++ name ++ "\x7d") (.braced name)
  | unclosed
      (name : String)
      (opened : ∃ rest, name = "\x7b" ++ rest)
      (unclosed : ∀ front, name ≠ front ++ "\x7d")
      (unspaced : ' ' ∉ name.toList) :
      Reads ("$" ++ name) (.unclosed name)
  | bare
      (name : String)
      (named : name ≠ "")
      (unopened : ∀ rest, name ≠ "\x7b" ++ rest)
      (unspaced : ' ' ∉ name.toList) :
      Reads ("$" ++ name) (.bare name)
  | literal
      (text : String)
      (unreferring : ∀ name, text = "$" ++ name →
        name = "" ∨ (' ' ∈ name.toList ∧ ∀ inner, name ≠ "\x7b" ++ inner ++ "\x7d")) :
      Reads text .literal

end Reference

open Reference

/-! ## Texts as characters -/

theorem eq_dollar_append {text : String} {rest : List Char} (starts : text.toList = '$' :: rest) :
    text = "$" ++ String.ofList rest := by
  rw [← String.toList_inj, starts]
  simp

theorem eq_braces
    {text : String}
    {inner : List Char}
    (encloses : text.toList = '\x7b' :: (inner ++ ['\x7d'])) :
    text = "\x7b" ++ String.ofList inner ++ "\x7d" := by
  rw [← String.toList_inj, encloses]
  simp

theorem bare?_eq (name : List Char) :
    reference?.bare? name =
      if name = [] ∨ ' ' ∈ name then none else some (String.ofList name) := by
  simp [reference?.bare?]

/-- Without a closing brace, an opening one is a character like all others. -/
theorem reference?_dollar_append
    {name : String}
    (unbraced : ∀ inner, name ≠ "\x7b" ++ inner ++ "\x7d") :
    reference? ("$" ++ name) = if name = "" ∨ ' ' ∈ name.toList then none else some name := by
  have bare : reference? ("$" ++ name) = reference?.bare? name.toList := by
    have characters : ("$" ++ name).toList = '$' :: name.toList := by simp
    unfold reference?
    rw [characters]
    -- Either the name opens a brace, which its end does not close, or it opens none.
    split
    · rename_i rest starts
      obtain ⟨_, opened⟩ := List.cons.inj starts
      have last : rest.getLast? ≠ some '\x7d' := by
        intro closes
        obtain ⟨inner, rfl⟩ := List.getLast?_eq_some_iff.mp closes
        exact unbraced _ (eq_braces opened)
      rw [if_neg last, opened]
    · rename_i rest _ starts
      rw [(List.cons.inj starts).2]
    · rename_i other
      exact absurd rfl (other _)
  rw [bare, bare?_eq, String.ofList_toList]
  simp

theorem unclosed_of_unbraced
    {name : String}
    (opened : ∃ rest, name = "\x7b" ++ rest)
    (unbraced : ∀ inner, name ≠ "\x7b" ++ inner ++ "\x7d") :
    ∀ front, name ≠ front ++ "\x7d" := by
  obtain ⟨rest, rfl⟩ := opened
  intro front closes
  have characters : '\x7b' :: rest.toList = front.toList ++ ['\x7d'] := by
    simpa using congrArg String.toList closes
  cases ends : front.toList with
  | nil => simp [ends] at characters
  | cons first inner =>
      rw [ends] at characters
      obtain ⟨rfl, _⟩ := List.cons.inj characters
      apply unbraced (String.ofList inner)
      apply eq_braces
      rw [closes, String.toList_append, ends]
      rfl

theorem startsBraced_iff {text : String} :
    startsBraced text = true ↔ ∃ rest, text = "$\x7b" ++ rest := by
  unfold startsBraced
  constructor
  · intro starts
    split at starts
    · rename_i rest characters
      refine ⟨String.ofList rest, ?_⟩
      rw [← String.toList_inj, characters]
      simp
    · cases starts
  · rintro ⟨rest, rfl⟩
    simp

/-! ## Every text reads in some way -/

section Reads

variable {environment : Environment}
variable {text : String}
variable {reference : Reference}

theorem reference?_of_reads (reads : Reads text reference) : reference? text = reference.name? := by
  cases reads with
  | braced name => simp [reference?, name?]
  | unclosed name opened unclosed unspaced =>
      obtain ⟨rest, rfl⟩ := opened
      rw [reference?_dollar_append fun inner => unclosed _]
      simpa [name?] using unspaced
  | bare name named unopened unspaced =>
      rw [reference?_dollar_append fun inner => String.append_assoc ▸ unopened _]
      simp [name?, named, unspaced]
  | literal _ unreferring =>
      by_cases dollar : ∃ name, text = "$" ++ name
      · obtain ⟨name, rfl⟩ := dollar
        rcases unreferring name rfl with rfl | ⟨spaced, unbraced⟩
        · rfl
        · rw [reference?_dollar_append unbraced, if_pos (.inr spaced)]
          rfl
      · -- The first two ways to match begin with the dollar sign that the text lacks.
        unfold reference?
        split
        · rename_i rest characters
          exact absurd ⟨_, eq_dollar_append characters⟩ dollar
        · rename_i rest _ characters
          exact absurd ⟨_, eq_dollar_append characters⟩ dollar
        · rfl

theorem required?_of_reads (reads : Reads text reference) :
    reference.required? = if startsBraced text then reference.name? else none := by
  cases reads with
  | braced name => simp [startsBraced, required?, name?]
  | unclosed name opened unclosed unspaced =>
      obtain ⟨rest, rfl⟩ := opened
      simp [startsBraced, required?, name?]
  | bare name named unopened unspaced =>
      have starts : ¬ startsBraced ("$" ++ name) = true := by
        rw [startsBraced_iff]
        rintro ⟨rest, same⟩
        apply unopened rest
        apply String.toList_inj.mp
        simpa using congrArg String.toList same
      rw [if_neg starts]
      rfl
  | literal _ unreferring => simp [required?, name?]

theorem exists_reads (text : String) : ∃ reference, Reads text reference := by
  by_cases dollar : ∃ name, text = "$" ++ name
  · obtain ⟨name, rfl⟩ := dollar
    by_cases braces : ∃ inner, name = "\x7b" ++ inner ++ "\x7d"
    · obtain ⟨inner, rfl⟩ := braces
      refine ⟨_, (?_ : "$\x7b" ++ inner ++ "\x7d" = _) ▸ Reads.braced inner⟩
      simp [← String.toList_inj]
    · rw [not_exists] at braces
      by_cases unnamed : name = ""
      · refine ⟨_, .literal _ fun other same => .inl ?_⟩
        rw [← (String.append_right_inj _).mp same]
        exact unnamed
      by_cases spaced : ' ' ∈ name.toList
      · refine ⟨_, .literal _ fun other same => .inr ?_⟩
        rw [← (String.append_right_inj _).mp same]
        exact ⟨spaced, braces⟩
      by_cases opened : ∃ rest, name = "\x7b" ++ rest
      · exact ⟨_, .unclosed name opened (unclosed_of_unbraced opened braces) spaced⟩
      · rw [not_exists] at opened
        exact ⟨_, .bare name unnamed opened spaced⟩
  · exact ⟨_, .literal _ fun name same => absurd ⟨name, same⟩ dollar⟩

theorem expand_of_reads (reads : Reads text reference) :
    environment.expand text = reference.text environment text := by
  unfold Environment.expand
  rw [reference?_of_reads reads]
  cases reference <;> rfl

theorem missing?_of_reads (reads : Reads text reference) :
    Config.missing? environment text =
      reference.required?.filter fun name => (environment name).isNone := by
  rw [Config.missing?, required?_of_reads reads, reference?_of_reads reads]
  split
  · rfl
  · rfl

/-- Where nothing is missing, a password is resolved like any other text. -/
theorem password?_of_set
    (reads : Reads text reference)
    (set : Config.missing? environment text = none) :
    reference.password? environment text = some (environment.expand text) := by
  rw [missing?_of_reads reads] at set
  rw [expand_of_reads reads]
  cases reference with
  | braced name | unclosed name =>
      cases value : environment name with
      | none => simp [required?, value] at set
      | some value => simp [password?, Reference.text, value]
  | bare name => rfl
  | literal => rfl

end Reads

namespace Config

def Unset (environment : Environment) (user : Account) (name : String) : Prop :=
  ∃ reference, Reads user.password reference ∧
    reference.required? = some name ∧
    environment name = none

/-- The first user in the file whose password cannot be had, and the variable it needs. -/
def FirstUnset
    (environment : Environment)
    (users : List Account)
    (user : Account)
    (name : String) :
    Prop :=
  ∃ earlier later,
    users = earlier ++ user :: later ∧
    (∀ other ∈ earlier, ∀ name, ¬ Unset environment other name) ∧
    Unset environment user name

/-- The value of a variable is taken as it is, whatever it looks like. -/
structure Substituted (environment : Environment) (user loaded : Account) : Prop where
  username : ∀ reference, Reads user.username reference →
    loaded.username = reference.text environment user.username
  password : ∀ reference, Reads user.password reference →
    reference.password? environment user.password = some loaded.password
  grants : loaded.grants = user.grants

section Loading

variable {environment : Environment}
variable {config : Config}

theorem unset_iff_missing? {user : Account} {name : String} :
    Unset environment user name ↔ missing? environment user.password = some name := by
  constructor
  · rintro ⟨reference, reads, needs, unset⟩
    rw [missing?_of_reads reads, needs]
    simp [unset]
  · intro missing
    obtain ⟨reference, reads⟩ := exists_reads user.password
    rw [missing?_of_reads reads, Option.filter_eq_some_iff] at missing
    exact ⟨reference, reads, missing.1, by simpa using missing.2⟩

theorem set_iff_missing? {user : Account} :
    (∀ name, ¬ Unset environment user name) ↔ missing? environment user.password = none := by
  rw [Option.eq_none_iff_forall_ne_some]
  simp only [unset_iff_missing?, ne_eq]

theorem substituted_of_set {user : Account} (set : missing? environment user.password = none) :
    Substituted environment user (environment.expandUser user) where
  username _ reads := expand_of_reads reads
  password _ reads := password?_of_set reads set
  grants := rfl

theorem resolve_eq (environment : Environment) (config : Config) :
    config.resolve environment =
      (config.users.mapM (resolveUser environment)).map fun _ => config.expanded environment := by
  unfold resolve
  cases resolves : config.users.mapM (resolveUser environment) with
  | error problem => rfl
  | ok users =>
      cases resolves.symm.trans (mapM_resolveUser_of_set (set_of_mapM_resolveUser resolves))
      rfl

/-- The first user in the file whose password cannot be had ends the loading. -/
theorem mapM_resolveUser_of_unset
    {earlier later : List Account}
    {user : Account}
    {name : String}
    (set : ∀ other ∈ earlier, missing? environment other.password = none)
    (unset : missing? environment user.password = some name) :
    (earlier ++ user :: later).mapM (resolveUser environment) =
      .error (.unsetPassword (environment.expand user.username) name) := by
  induction earlier with
  | nil =>
      rw [List.nil_append, mapM_resolveUser_cons, resolveUser_eq, unset]
      rfl
  | cons first others ih =>
      rw [List.forall_mem_cons] at set
      rw [List.cons_append, mapM_resolveUser_cons, resolveUser_eq, set.1, ih set.2]
      rfl

theorem exists_firstUnset
    {users : List Account}
    (unset : ∃ user ∈ users, ∃ name, Unset environment user name) :
    ∃ user name, FirstUnset environment users user name := by
  induction users with
  | nil =>
      obtain ⟨user, listed, _⟩ := unset
      cases listed
  | cons first later ih =>
      by_cases here : ∃ name, Unset environment first name
      · obtain ⟨name, unset⟩ := here
        exact ⟨first, name, [], later, rfl, List.forall_mem_nil _, unset⟩
      · rw [not_exists] at here
        have rest : ∃ user ∈ later, ∃ name, Unset environment user name := by
          obtain ⟨user, listed, name, unset⟩ := unset
          rcases List.mem_cons.mp listed with rfl | listed
          · exact absurd unset (here name)
          · exact ⟨user, listed, name, unset⟩
        obtain ⟨user, name, earlier, behind, rfl, set, unset⟩ := ih rest
        have passed := List.forall_mem_cons.mpr ⟨here, set⟩
        exact ⟨user, name, first :: earlier, behind, rfl, passed, unset⟩

theorem mapM_resolveUser_of_firstUnset
    {users : List Account}
    {user : Account}
    {name : String}
    {reference : Reference}
    (first : FirstUnset environment users user name)
    (reads : Reads user.username reference) :
    users.mapM (resolveUser environment) =
      .error (.unsetPassword (reference.text environment user.username) name) := by
  obtain ⟨earlier, later, rfl, set, unset⟩ := first
  rw [← expand_of_reads reads]
  apply mapM_resolveUser_of_unset
  · exact fun other listed => set_iff_missing?.mp (set other listed)
  · exact unset_iff_missing?.mp unset

theorem substituted_of_mapM_resolveUser
    {users resolved : List Account}
    (resolves : users.mapM (resolveUser environment) = .ok resolved) :
    List.Forall₂ (Substituted environment) users (users.map environment.expandUser) := by
  rw [List.forall₂_map_right_iff, List.forall₂_same]
  exact fun user listed => substituted_of_set (set_of_mapM_resolveUser resolves user listed)

theorem substituted_of_finish
    {final : Config}
    (accepts : finish environment config = .ok final) :
    List.Forall₂ (Substituted environment) config.users final.users := by
  rw [finish_eq, bind_eq_ok] at accepts
  obtain ⟨users, resolves, accepts⟩ := accepts
  obtain ⟨_, _, rfl⟩ := map_eq_ok.mp accepts
  exact substituted_of_mapM_resolveUser resolves

theorem ofBytes_of_decode
    {bytes : Bytes}
    {text : String}
    (readable : Utf8.decode? bytes = some text)
    (decodes : decode text = .ok config) :
    ofBytes environment bytes =
      (finish environment config).mapError fun problem => .configuration problem.message := by
  rw [ofBytes, readable]
  dsimp only
  rw [ofText, decodes]
  rfl

end Loading

/-- A password that refers to a variable in braces, or to one behind an opening brace alone, is
the value of that variable; any other one stays as it is written unless its variable is set. Users
keep their order and their grants. If a variable is not set that a password needs, loading fails
for the first such user of the file, under the name that the user has once resolved. -/
theorem placeholders_never_become_passwords (environment : Environment) (config : Config) :
    (∀ text, ∃ reference, Reads text reference) ∧
    ((∃ resolved, config.resolve environment = .ok resolved) ↔
      ∀ user ∈ config.users, ∀ name, ¬ Unset environment user name) ∧
    (∀ resolved, config.resolve environment = .ok resolved →
      List.Forall₂ (Substituted environment) config.users resolved.users) ∧
    ((∃ user ∈ config.users, ∃ name, Unset environment user name) →
      ∃ user name, FirstUnset environment config.users user name) ∧
    (∀ user name reference,
      FirstUnset environment config.users user name → Reads user.username reference →
        config.resolve environment =
          .error (.unsetPassword (reference.text environment user.username) name)) ∧
    ∀ bytes text, Utf8.decode? bytes = some text → decode text = .ok config →
      (∀ loaded, ofBytes environment bytes = .ok loaded →
        List.Forall₂ (Substituted environment) config.users loaded.users) ∧
      ∀ user name reference,
        FirstUnset environment config.users user name → Reads user.username reference →
          ofBytes environment bytes =
            .error (.configuration ("Password for user '"
              ++ reference.text environment user.username
              ++ "' references unset env var " ++ name)) := by
  refine ⟨exists_reads, ⟨?_, ?_⟩, ?_, exists_firstUnset, ?_, ?_⟩
  · rintro ⟨resolved, resolves⟩ user listed
    rw [resolve_eq, map_eq_ok] at resolves
    obtain ⟨users, resolves, _⟩ := resolves
    exact set_iff_missing?.mpr (set_of_mapM_resolveUser resolves user listed)
  · intro set
    rw [resolve_eq]
    refine ⟨_, map_eq_ok.mpr ⟨_, mapM_resolveUser_of_set ?_, rfl⟩⟩
    exact fun user listed => set_iff_missing?.mp (set user listed)
  · intro resolved resolves
    rw [resolve_eq, map_eq_ok] at resolves
    obtain ⟨users, resolves, rfl⟩ := resolves
    exact substituted_of_mapM_resolveUser resolves
  · intro user name reference first reads
    rw [resolve_eq, mapM_resolveUser_of_firstUnset first reads]
    rfl
  · intro bytes text readable decodes
    rw [ofBytes_of_decode readable decodes]
    constructor
    · intro loaded accepts
      cases finishes : finish environment config with
      | error problem =>
          rw [finishes] at accepts
          cases accepts
      | ok final =>
          rw [finishes] at accepts
          cases accepts
          exact substituted_of_finish finishes
    · intro user name reference first reads
      rw [finish_eq, mapM_resolveUser_of_firstUnset first reads]
      rfl

/-- The password of the cook only looks like a reference. -/
def kitchenText : String :=
  "server:\n listen_port: 1\nusers:\n- username: cook\n  password: $\x7ba b\n"
    ++ "- username: $TILL\n  password: $\x7bKEY\x7d"

def kitchenUsers : List Account :=
  [{ username := "cook", password := "$\x7ba b" },
    { username := "$TILL", password := "$\x7bKEY\x7d" }]

theorem kitchen_is_refused_without_the_key :
    let environment : Environment := fun name => if name = "TILL" then some "cashier" else none
    ofBytes environment (Utf8.encode kitchenText) =
      .error (.configuration "Password for user 'cashier' references unset env var KEY") := by
  intro environment
  have readable : Utf8.decode? (Utf8.encode kitchenText) = some kitchenText := by
    decide +kernel
  have written : (decode kitchenText).toOption.map (·.users) = some kitchenUsers := by
    decide +kernel
  have reads : Reads "$TILL" (.bare "TILL") := by
    refine .bare "TILL" (by decide) ?_ (by decide)
    intro rest same
    simpa using congrArg String.toList same
  cases decodes : decode kitchenText with
  | error problem =>
      rw [decodes] at written
      cases written
  | ok config =>
      rw [decodes] at written
      have users : config.users = kitchenUsers := Option.some.inj written
      have first : FirstUnset environment config.users
          { username := "$TILL", password := "$\x7bKEY\x7d" } "KEY" := by
        refine ⟨[{ username := "cook", password := "$\x7ba b" }], [], users, ?_, ?_⟩
        · rw [List.forall_mem_singleton, set_iff_missing?]
          decide +kernel
        · rw [unset_iff_missing?]
          decide +kernel
      obtain ⟨_, _, _, _, _, loads⟩ := placeholders_never_become_passwords environment config
      obtain ⟨_, fails⟩ := loads _ kitchenText readable decodes
      exact fails _ "KEY" (.bare "TILL") first reads

end Config

end SqlGate
