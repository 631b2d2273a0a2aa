import Mathlib.Data.List.Induction
import SqlGate.Proofs.Registry
import SqlGate.Proofs.Registry.Catalog

/-!
# Registries and lists

Whatever is asked of a registry and however it is reloaded meanwhile, each answer is that of a
list: of the one that the registry was last reloaded from, or, for what was taken from it, of
the one that it had at that time.
-/

namespace SqlGate

set_option autoImplicit false

section Lists

variable {Entry Question Key Check : Type}

/-! ## Lists -/

structure Listing (Entry : Type) where
  listed : List Entry
  reloads : Nat := 0

/-- A list is kept with what is asked for when something is taken. -/
def Listing.catalog
    (answer : Listing Entry → Question → Reply)
    (check : List Entry → Key → Check → Option Reply)
    (reloaded : Nat → Reply) :
    Catalog (Listing Entry) (List Entry × Key) Entry Question Key Check where
  answer := answer
  take listing key := (listing.listed, key)
  check taken := check taken.1 taken.2
  reload listing entries := { listed := entries, reloads := listing.reloads + 1 }
  reloaded listing := reloaded listing.reloads

theorem Listing.content_run
    (answer : Listing Entry → Question → Reply)
    (check : List Entry → Key → Check → Option Reply)
    (reloaded : Nat → Reply)
    (initial : List Entry)
    (operations : List (Operation Entry Question Key Check)) :
    ((Listing.catalog answer check reloaded).run { content := { listed := initial } }
        operations).content =
      { listed := Operation.lastListed initial operations
        reloads := (Operation.reloads operations).length } := by
  rw [Catalog.content_run, Operation.lastListed]
  generalize Operation.reloads operations = lists
  -- From the end of the lists, since the last one counts.
  induction lists using List.reverseRecOn with
  | nil => rfl
  | append_singleton lists last ih =>
      rw [List.foldl_append, List.foldl_cons, List.foldl_nil, ih]
      simp [Listing.catalog]

theorem Listing.content_filled
    {Content Held : Type}
    {answer : Listing Entry → Question → Reply}
    {check : List Entry → Key → Check → Option Reply}
    {reloaded : Nat → Reply}
    {catalog : Catalog Content Held Entry Question Key Check}
    {content : Listing Entry → Content}
    {held : List Entry × Key → Held}
    (fills : (Listing.catalog answer check reloaded).Fills catalog content held)
    (initial : List Entry)
    (operations : List (Operation Entry Question Key Check)) :
    (catalog.run { content := content { listed := initial } } operations).content =
      content
        { listed := Operation.lastListed initial operations
          reloads := (Operation.reloads operations).length } := by
  have filled := Catalog.run_filled fills { content := { listed := initial } } operations
  have listed := Listing.content_run answer check reloaded initial operations
  exact (congrArg Desk.content filled).trans (congrArg content listed)

def lookup (key : Entry → String) (listed : List Entry) (name : String) : Option Entry :=
  listed.reverse.find? (key · = name)

theorem lookup_eq_some
    {key : Entry → String}
    {listed : List Entry}
    {name : String}
    {entry : Entry} :
    lookup key listed name = some entry ↔
      ∃ before later,
        listed = before ++ entry :: later ∧
          key entry = name ∧
          ∀ other ∈ later, key other ≠ name := by
  rw [lookup, List.find?_eq_some_iff_append]
  -- The entries before the found one in reverse are those after it.
  constructor
  · rintro ⟨named, later, before, split, others⟩
    refine ⟨before.reverse, later.reverse, ?_, ?_, ?_⟩
    · rw [← List.reverse_reverse listed, split]
      simp
    · simpa using named
    · simpa using others
  · rintro ⟨before, later, rfl, named, others⟩
    refine ⟨?_, later.reverse, before.reverse, ?_, ?_⟩
    · simpa using named
    · simp
    · simpa using others

end Lists

/-! ## Schemas -/

inductive SnapshotQuestion where
  | get (name : String)
  | contains (name : String)
  | names
  | size
  | isEmpty

inductive SchemaQuestion where
  | resolve (name : String)
  | current (question : SnapshotQuestion)
  | generation

abbrev SchemaOperation := Operation Schema SchemaQuestion Unit SnapshotQuestion

def SchemaSnapshot.answer (snapshot : SchemaSnapshot) : SnapshotQuestion → Reply
  | .get name => .schema (snapshot.get? name)
  | .contains name => .truth (snapshot.contains name)
  | .names => .names snapshot.names
  | .size => .number snapshot.size
  | .isEmpty => .truth snapshot.isEmpty

def SchemaRegistry.catalog :
    Catalog SchemaRegistry SchemaSnapshot Schema SchemaQuestion Unit SnapshotQuestion where
  answer registry := fun
    | .resolve name => .schema (registry.resolve name)
    | .current question => registry.current.answer question
    | .generation => .generation registry.generation
  take registry _ := registry.current
  check snapshot question := some (snapshot.answer question)
  reload registry entries := registry.reload (.ofList entries)
  reloaded registry := .generation registry.generation

def SnapshotQuestion.answer (listed : List Schema) : SnapshotQuestion → Reply
  | .get name => .schema (lookup (·.name) listed name)
  | .contains name => .truth (decide (name ∈ listed.map (·.name)))
  | .names => .names (namesOf (·.name) listed)
  | .size => .number (listed.map (·.name)).dedup.length
  | .isEmpty => .truth listed.isEmpty

def schemaListing :
    Catalog (Listing Schema) (List Schema × Unit) Schema SchemaQuestion Unit SnapshotQuestion :=
  Listing.catalog
    (fun listing => fun
      | .resolve name => .schema (lookup (·.name) listing.listed name)
      | .current question => question.answer listing.listed
      | .generation => .generation (UInt64.ofNat listing.reloads))
    (fun listed _ question => some (question.answer listed))
    (fun reloads => .generation (UInt64.ofNat reloads))

def Listing.schemaRegistry (listing : Listing Schema) : SchemaRegistry where
  current := .ofList listing.listed
  generation := UInt64.ofNat listing.reloads

theorem SchemaSnapshot.answer_ofList (listed : List Schema) (question : SnapshotQuestion) :
    (SchemaSnapshot.ofList listed).answer question = question.answer listed := by
  cases question with
  | get name => exact congrArg Reply.schema (get?_ofList listed name)
  | contains name =>
      apply congrArg Reply.truth
      apply Bool.eq_iff_iff.mpr
      rw [← mem_names, names_ofList, mem_namesOf, decide_eq_true_iff]
  | names => exact congrArg Reply.names (names_ofList listed)
  | size => exact congrArg Reply.number (size_ofList listed)
  | isEmpty => exact congrArg Reply.truth (isEmpty_ofList listed)

theorem fills_schemas :
    schemaListing.Fills SchemaRegistry.catalog Listing.schemaRegistry
      (fun taken => .ofList taken.1) where
  answer listing question := by
    cases question with
    | resolve name => exact congrArg Reply.schema (SchemaSnapshot.get?_ofList _ name)
    | current question => exact SchemaSnapshot.answer_ofList _ question
    | generation => rfl
  take _ _ := rfl
  check taken question := congrArg some (SchemaSnapshot.answer_ofList taken.1 question)
  reload listing entries := by
    -- The counter wraps, and so does the number of reloads as a word.
    have next : UInt64.ofNat listing.reloads + 1 = UInt64.ofNat (listing.reloads + 1) :=
      (UInt64.ofNat_add listing.reloads 1).symm
    exact congrArg (SchemaRegistry.mk (.ofList entries)) next
  reloaded _ := rfl

/-! ## Accounts -/

inductive AccountQuestion where
  | verifies (scramble response : Bytes)
  | mayUse (schema : String)

inductive UserQuestion where
  | get (username : String)
  | size
  | isEmpty

abbrev UserOperation := Operation Account UserQuestion String AccountQuestion

def Account.answer (account : Account) : AccountQuestion → Reply
  | .verifies scramble response => .truth (account.verifies scramble response)
  | .mayUse schema => .truth (account.mayUse schema)

def UserRegistry.catalog :
    Catalog UserRegistry (Option Account) Account UserQuestion String AccountQuestion where
  answer registry := fun
    | .get username => .account (registry.get? username)
    | .size => .number registry.size
    | .isEmpty => .truth registry.isEmpty
  take := UserRegistry.get?
  check account question := account.map (·.answer question)
  reload := UserRegistry.reload
  reloaded _ := .done

def accountListing :
    Catalog (Listing Account) (List Account × String) Account UserQuestion String
      AccountQuestion :=
  Listing.catalog
    (fun listing => fun
      | .get username => .account (lookup (·.username) listing.listed username)
      | .size => .number (listing.listed.map (·.username)).dedup.length
      | .isEmpty => .truth listing.listed.isEmpty)
    (fun listed username question =>
      (lookup (·.username) listed username).map (·.answer question))
    (fun _ => .done)

def Listing.userRegistry (listing : Listing Account) : UserRegistry := .ofList listing.listed

theorem fills_users :
    accountListing.Fills UserRegistry.catalog Listing.userRegistry
      (fun taken => (UserRegistry.ofList taken.1).get? taken.2) where
  answer listing question := by
    cases question with
    | get username => exact congrArg Reply.account (UserRegistry.get?_ofList _ username)
    | size => exact congrArg Reply.number (UserRegistry.size_ofList _)
    | isEmpty => exact congrArg Reply.truth (UserRegistry.isEmpty_ofList _)
  take _ _ := rfl
  check taken question :=
    congrArg (Option.map (Account.answer · question)) (UserRegistry.get?_ofList taken.1 taken.2)
  reload _ _ := rfl
  reloaded _ := rfl

/-! ## Operations in any order -/

def SchemaRegistry.after (initial : List Schema) (operations : List SchemaOperation) :
    Desk SchemaRegistry SchemaSnapshot :=
  catalog.run { content := .ofList initial } operations

def UserRegistry.after (initial : List Account) (operations : List UserOperation) :
    Desk UserRegistry (Option Account) :=
  catalog.run { content := .ofList initial } operations

structure SchemaRegistry.KeepsToLists
    (initial : List Schema)
    (operations : List SchemaOperation) :
    Prop where
  answers :
    catalog.answers { content := .ofList initial } operations =
      schemaListing.answers { content := { listed := initial } } operations
  /-- Of the schemas of one name, the last in the list of the last reload is found. -/
  found : ∀ name schema,
    (after initial operations).content.resolve name = some schema ↔
      ∃ before later,
        Operation.lastListed initial operations = before ++ schema :: later ∧
          schema.name = name ∧
          ∀ other ∈ later, other.name ≠ name
  known : ∀ name,
    name ∈ (after initial operations).content.current.names ↔
      ∃ schema ∈ Operation.lastListed initial operations, schema.name = name
  ascending : (after initial operations).content.current.names.Pairwise (· < ·)
  /-- The generation counts the reloads, as far as 64 bits go. -/
  generation :
    (after initial operations).content.generation.toNat =
      (Operation.reloads operations).length % UInt64.size
  /-- A snapshot that is taken next stays one of the list as it is now. -/
  kept : ∀ later,
    (after initial (operations ++ .take () :: later)).taken[
        (after initial operations).taken.length]? =
      some (.ofList (Operation.lastListed initial operations))
  unread : after initial (operations.filter (!·.isRead)) = after initial operations

structure UserRegistry.KeepsToLists
    (initial : List Account)
    (operations : List UserOperation) :
    Prop where
  answers :
    catalog.answers { content := .ofList initial } operations =
      accountListing.answers { content := { listed := initial } } operations
  /-- Of the accounts of one name, the last in the list of the last reload is found. -/
  found : ∀ username account,
    (after initial operations).content.get? username = some account ↔
      ∃ before later,
        Operation.lastListed initial operations = before ++ account :: later ∧
          account.username = username ∧
          ∀ other ∈ later, other.username ≠ username
  /-- An account that is taken next stays the one that is found now. -/
  kept : ∀ username later,
    (after initial (operations ++ .take username :: later)).taken[
        (after initial operations).taken.length]? =
      some ((after initial operations).content.get? username)
  unread : after initial (operations.filter (!·.isRead)) = after initial operations

theorem SchemaRegistry.content_after
    (initial : List Schema)
    (operations : List SchemaOperation) :
    (after initial operations).content =
      { current := .ofList (Operation.lastListed initial operations)
        generation := UInt64.ofNat (Operation.reloads operations).length } :=
  Listing.content_filled fills_schemas initial operations

theorem UserRegistry.content_after
    (initial : List Account)
    (operations : List UserOperation) :
    (after initial operations).content = .ofList (Operation.lastListed initial operations) :=
  Listing.content_filled fills_users initial operations

theorem SchemaRegistry.keepsToLists
    (initial : List Schema)
    (operations : List SchemaOperation) :
    KeepsToLists initial operations := by
  have content := content_after initial operations
  constructor
  · exact Catalog.answers_filled fills_schemas { content := { listed := initial } } operations
  · intro name schema
    rw [content, resolve, SchemaSnapshot.get?_ofList]
    exact lookup_eq_some
  · intro name
    rw [content, SchemaSnapshot.names_ofList, mem_namesOf, List.mem_map]
  · exact SchemaSnapshot.pairwise_names _
  · rw [content, UInt64.toNat_ofNat']
  · intro later
    have current := congrArg SchemaRegistry.current content
    exact (Catalog.taken_run () operations later).trans (congrArg some current)
  · exact Catalog.run_without_reads operations

theorem UserRegistry.keepsToLists
    (initial : List Account)
    (operations : List UserOperation) :
    KeepsToLists initial operations := by
  constructor
  · exact Catalog.answers_filled fills_users { content := { listed := initial } } operations
  · intro username account
    rw [content_after, get?_ofList]
    exact lookup_eq_some
  · intro username later
    exact Catalog.taken_run username operations later
  · exact Catalog.run_without_reads operations

/-- Whatever is asked of a registry or of what was taken from it, and however it is reloaded
meanwhile, the answers are those of the lists. -/
theorem registries_keep_to_their_lists :
    (∀ (initial : List Schema) (operations : List SchemaOperation),
      SchemaRegistry.KeepsToLists initial operations) ∧
      ∀ (initial : List Account) (operations : List UserOperation),
        UserRegistry.KeepsToLists initial operations :=
  ⟨SchemaRegistry.keepsToLists, UserRegistry.keepsToLists⟩

/-- A snapshot goes on without the schema that a reload brings. -/
example :
    SchemaRegistry.catalog.answers { content := .ofList [] }
        [.take (), .reload [{ name := "orders" }], .ask (.current .names),
          .askTaken 0 .names, .ask .generation] =
      [none, some (.generation 1), some (.names ["orders"]), some (.names []),
        some (.generation 1)] := by
  decide +kernel

end SqlGate
