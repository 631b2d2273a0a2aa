import Mathlib.Data.List.Dedup
import SqlGate.Account
import SqlGate.Schema
import Std.Data.TreeMap.Lemmas

/-!
# What a registry finds

A registry is filled from a list, one entry after another. It finds under a name what the
last entry of that name says; where no two entries share a name, it finds them all. It has
each name once, in ascending order.
-/

namespace SqlGate

set_option autoImplicit false

section Filled

variable {Entry : Type}
variable (key : Entry → String)

theorem getElem?_foldl_insert
    (entries : List Entry)
    (known : Std.TreeMap String Entry)
    (name : String) :
    (entries.foldl (fun known entry => known.insert (key entry) entry) known)[name]? =
      (entries.reverse.find? (key · = name)).or known[name]? := by
  induction entries generalizing known with
  | nil => rfl
  | cons entry rest ih =>
      rw [List.foldl_cons, ih, List.reverse_cons, List.find?_append, Option.or_assoc,
        Std.TreeMap.getElem?_insert]
      apply congrArg
      by_cases same : key entry = name
      · simp [same]
      · simp [same, Std.LawfulEqCmp.compare_eq_iff_eq]

variable {key}

theorem find?_eq_some_of_distinct
    {entries : List Entry}
    (distinct : (entries.map key).Nodup)
    {name : String}
    {entry : Entry} :
    entries.find? (key · = name) = some entry ↔ entry ∈ entries ∧ key entry = name := by
  constructor
  · intro found
    exact ⟨List.mem_of_find?_eq_some found, by simpa using List.find?_some found⟩
  · rintro ⟨listed, named⟩
    cases found : entries.find? (key · = name) with
    | none => exact absurd (decide_eq_true named) (List.find?_eq_none.mp found entry listed)
    | some other =>
        have same : key other = key entry := by
          simpa [named] using List.find?_some found
        rw [List.inj_on_of_nodup_map distinct (List.mem_of_find?_eq_some found) listed same]

theorem find?_reverse_eq_some
    {entries : List Entry}
    (distinct : (entries.map key).Nodup)
    {name : String}
    {entry : Entry} :
    entries.reverse.find? (key · = name) = some entry ↔ entry ∈ entries ∧ key entry = name := by
  have backwards : (entries.reverse.map key).Nodup := by
    rwa [List.map_reverse, List.nodup_reverse]
  rw [find?_eq_some_of_distinct backwards, List.mem_reverse]

/-! ## Names -/

variable (key)

def filled (entries : List Entry) : Std.TreeMap String Entry :=
  entries.foldl (fun known entry => known.insert (key entry) entry) ∅

theorem mem_filled (entries : List Entry) (name : String) :
    name ∈ filled key entries ↔ name ∈ entries.map key := by
  rw [Std.TreeMap.mem_iff_isSome_getElem?, filled, getElem?_foldl_insert,
    Std.TreeMap.getElem?_emptyc, Option.or_none, List.find?_isSome]
  simp

def namesOf (entries : List Entry) : List String := (entries.map key).dedup.mergeSort

theorem mem_namesOf {entries : List Entry} {name : String} :
    name ∈ namesOf key entries ↔ name ∈ entries.map key := by
  rw [namesOf, List.mem_mergeSort, List.mem_dedup]

theorem namesOf_perm (entries : List Entry) :
    (namesOf key entries).Perm (entries.map key).dedup :=
  List.mergeSort_perm _ _

theorem pairwise_keys (known : Std.TreeMap String Entry) : known.keys.Pairwise (· < ·) :=
  known.ordered_keys.imp compareOfLessAndEq_eq_lt.mp

theorem keys_filled (entries : List Entry) :
    (filled key entries).keys = namesOf key entries := by
  have sameNames : (filled key entries).keys.Perm (namesOf key entries) := by
    apply (List.perm_ext_iff_of_nodup Std.TreeMap.nodup_keys _).mpr
    · intro name
      rw [Std.TreeMap.mem_keys, mem_filled, mem_namesOf]
    · exact (namesOf_perm key entries).nodup_iff.mpr (List.nodup_dedup _)
  apply List.Perm.eq_of_pairwise (fun _ _ _ _ => String.le_antisymm) _ _ sameNames
  · exact (pairwise_keys _).imp fun below => String.lt_asymm below
  · apply (List.pairwise_mergeSort _ _ _).imp of_decide_eq_true
    · intro one other third below above
      exact decide_eq_true (String.le_trans (of_decide_eq_true below) (of_decide_eq_true above))
    · intro one other
      simpa using String.le_total one other

theorem size_filled (entries : List Entry) :
    (filled key entries).size = (entries.map key).dedup.length := by
  rw [← Std.TreeMap.length_keys, keys_filled, (namesOf_perm key entries).length_eq]

theorem isEmpty_filled (entries : List Entry) :
    (filled key entries).isEmpty = entries.isEmpty := by
  rw [Std.TreeMap.isEmpty_eq_size_eq_zero, size_filled]
  cases entries with
  | nil => rfl
  | cons entry rest => simp

end Filled

namespace UserRegistry

variable {accounts : List Account}
variable {username : String}

theorem get?_ofList (accounts : List Account) (username : String) :
    (ofList accounts).get? username = accounts.reverse.find? (·.username = username) := by
  rw [get?, ofList, getElem?_foldl_insert, Std.TreeMap.getElem?_emptyc, Option.or_none]

theorem get?_ofList_eq_none (unlisted : ∀ account ∈ accounts, account.username ≠ username) :
    (ofList accounts).get? username = none := by
  rw [get?_ofList]
  apply List.find?_eq_none.mpr
  intro account listed
  simpa using unlisted account (List.mem_reverse.mp listed)

theorem get?_ofList_eq_some
    (distinct : (accounts.map (·.username)).Nodup)
    {account : Account} :
    (ofList accounts).get? username = some account ↔
      account ∈ accounts ∧ account.username = username := by
  rw [get?_ofList, find?_reverse_eq_some distinct]

theorem size_ofList (accounts : List Account) :
    (ofList accounts).size = (accounts.map (·.username)).dedup.length :=
  size_filled Account.username accounts

theorem isEmpty_ofList (accounts : List Account) :
    (ofList accounts).isEmpty = accounts.isEmpty :=
  isEmpty_filled Account.username accounts

end UserRegistry

namespace SchemaSnapshot

theorem get?_ofList (schemas : List Schema) (name : String) :
    (ofList schemas).get? name = schemas.reverse.find? (·.name = name) := by
  rw [get?, ofList, getElem?_foldl_insert, Std.TreeMap.getElem?_emptyc, Option.or_none]

theorem get?_ofList_eq_some
    {schemas : List Schema}
    (distinct : (schemas.map (·.name)).Nodup)
    {name : String}
    {schema : Schema} :
    (ofList schemas).get? name = some schema ↔ schema ∈ schemas ∧ schema.name = name := by
  rw [get?_ofList, find?_reverse_eq_some distinct]

theorem contains_eq (snapshot : SchemaSnapshot) (name : String) :
    snapshot.contains name = (snapshot.get? name).isSome :=
  Std.TreeMap.contains_eq_isSome_getElem?

theorem mem_names {snapshot : SchemaSnapshot} {name : String} :
    name ∈ snapshot.names ↔ snapshot.contains name = true :=
  Std.TreeMap.mem_keys.trans Std.TreeMap.mem_iff_contains

theorem pairwise_names (snapshot : SchemaSnapshot) : snapshot.names.Pairwise (· < ·) :=
  pairwise_keys snapshot.byName

theorem names_ofList (schemas : List Schema) :
    (ofList schemas).names = namesOf (·.name) schemas :=
  keys_filled Schema.name schemas

theorem size_ofList (schemas : List Schema) :
    (ofList schemas).size = (schemas.map (·.name)).dedup.length :=
  size_filled Schema.name schemas

theorem isEmpty_ofList (schemas : List Schema) :
    (ofList schemas).isEmpty = schemas.isEmpty :=
  isEmpty_filled Schema.name schemas

end SchemaSnapshot

end SqlGate
