import SqlGate.Account
import SqlGate.Schema

/-!
# Operations on a registry

A registry is asked, things are taken from it to be asked later, and it is reloaded, in any
order. Only reloads change what it has, and what was taken stays as it was. Where a registry can
be filled from a model, it answers as the model does.
-/

namespace SqlGate

set_option autoImplicit false

/-! ## Operations -/

/-- Whatever is taken from a registry has a place in the order of taking, by which it can be asked
later. -/
inductive Operation (Entry Question Key Check : Type) where
  | ask (question : Question)
  | take (key : Key)
  | askTaken (place : Nat) (check : Check)
  | reload (entries : List Entry)

inductive Reply where
  | schema (found : Option Schema)
  | account (found : Option Account)
  | truth (holds : Bool)
  | names (names : List String)
  | number (number : Nat)
  | generation (generation : UInt64)
  | done
deriving DecidableEq

section Operations

variable {Entry Question Key Check : Type}

namespace Operation

def isRead : Operation Entry Question Key Check → Bool
  | .ask _ | .askTaken _ _ => true
  | .take _ | .reload _ => false

def reloaded? : Operation Entry Question Key Check → Option (List Entry)
  | .reload entries => some entries
  | .ask _ | .askTaken _ _ | .take _ => none

def reloads (operations : List (Operation Entry Question Key Check)) : List (List Entry) :=
  operations.filterMap reloaded?

def lastListed
    (initial : List Entry)
    (operations : List (Operation Entry Question Key Check)) :
    List Entry :=
  (reloads operations).getLast?.getD initial

end Operation

structure Catalog (Content Held Entry Question Key Check : Type) where
  answer : Content → Question → Reply
  take : Content → Key → Held
  check : Held → Check → Option Reply
  reload : Content → List Entry → Content
  reloaded : Content → Reply

structure Desk (Content Held : Type) where
  content : Content
  taken : List Held := []

def Desk.map
    {Content Held Content' Held' : Type}
    (content : Content → Content')
    (held : Held → Held')
    (desk : Desk Content Held) :
    Desk Content' Held' where
  content := content desk.content
  taken := desk.taken.map held

namespace Catalog

variable {Content Held : Type}
variable (catalog : Catalog Content Held Entry Question Key Check)

def perform (desk : Desk Content Held) :
    Operation Entry Question Key Check → Option Reply × Desk Content Held
  | .ask question => (some (catalog.answer desk.content question), desk)
  | .take key => (none, { desk with taken := desk.taken ++ [catalog.take desk.content key] })
  | .askTaken place check => (desk.taken[place]?.bind (catalog.check · check), desk)
  | .reload entries =>
      let content := catalog.reload desk.content entries
      (some (catalog.reloaded content), { desk with content })

def run (desk : Desk Content Held) (operations : List (Operation Entry Question Key Check)) :
    Desk Content Held :=
  operations.foldl (fun desk operation => (catalog.perform desk operation).2) desk

def answers : Desk Content Held → List (Operation Entry Question Key Check) → List (Option Reply)
  | _, [] => []
  | desk, operation :: later =>
      let (reply, after) := catalog.perform desk operation
      reply :: answers after later

/-! ## Runs -/

variable {catalog}
variable {desk : Desk Content Held}

theorem run_append (before later : List (Operation Entry Question Key Check)) :
    catalog.run desk (before ++ later) = catalog.run (catalog.run desk before) later :=
  List.foldl_append

theorem content_run (operations : List (Operation Entry Question Key Check)) :
    (catalog.run desk operations).content =
      (Operation.reloads operations).foldl catalog.reload desk.content := by
  induction operations generalizing desk with
  | nil => rfl
  | cons operation later ih =>
      rw [run, List.foldl_cons, ← run, ih]
      cases operation with
      | ask question => rfl
      | take key => rfl
      | askTaken place check => rfl
      | reload entries => rfl

theorem run_without_reads (operations : List (Operation Entry Question Key Check)) :
    catalog.run desk (operations.filter (!·.isRead)) = catalog.run desk operations := by
  induction operations generalizing desk with
  | nil => rfl
  | cons operation later ih =>
      cases operation with
      | ask question => exact ih
      | take key => exact ih
      | askTaken place check => exact ih
      | reload entries => exact ih

theorem taken_isPrefix_run (operations : List (Operation Entry Question Key Check)) :
    desk.taken <+: (catalog.run desk operations).taken := by
  induction operations generalizing desk with
  | nil => exact List.prefix_rfl
  | cons operation later ih =>
      apply List.IsPrefix.trans _ ih
      cases operation with
      | ask question => exact List.prefix_rfl
      | take key => exact List.prefix_append _ _
      | askTaken place check => exact List.prefix_rfl
      | reload entries => exact List.prefix_rfl

theorem taken_run (key : Key) (before later : List (Operation Entry Question Key Check)) :
    let found := catalog.run desk before
    (catalog.run desk (before ++ .take key :: later)).taken[found.taken.length]? =
      some (catalog.take found.content key) := by
  intro found
  rw [run_append]
  -- Later operations only add to what was taken.
  have kept : (catalog.perform found (.take key)).2.taken <+:
      (catalog.run found (.take key :: later)).taken := taken_isPrefix_run later
  obtain ⟨more, extended⟩ := kept
  rw [← extended]
  simp [perform]

/-! ## Catalogs that are filled from a model -/

section Fills

variable {Content' Held' : Type}
variable {model : Catalog Content Held Entry Question Key Check}
variable {catalog : Catalog Content' Held' Entry Question Key Check}
variable {content : Content → Content'}
variable {held : Held → Held'}

/-- A catalog answers as a model does from which it can be filled. -/
structure Fills
    (model : Catalog Content Held Entry Question Key Check)
    (catalog : Catalog Content' Held' Entry Question Key Check)
    (content : Content → Content')
    (held : Held → Held') :
    Prop where
  answer : ∀ listing question, catalog.answer (content listing) question =
    model.answer listing question
  take : ∀ listing key, catalog.take (content listing) key = held (model.take listing key)
  check : ∀ taken check, catalog.check (held taken) check = model.check taken check
  reload : ∀ listing entries, catalog.reload (content listing) entries =
    content (model.reload listing entries)
  reloaded : ∀ listing, catalog.reloaded (content listing) = model.reloaded listing

theorem perform_filled
    (fills : Fills model catalog content held)
    (desk : Desk Content Held)
    (operation : Operation Entry Question Key Check) :
    catalog.perform (desk.map content held) operation =
      ((model.perform desk operation).1, (model.perform desk operation).2.map content held) := by
  cases operation with
  | ask question => simp [perform, Desk.map, fills.answer]
  | take key => simp [perform, Desk.map, fills.take]
  | askTaken place check =>
      cases found : desk.taken[place]? with
      | none => simp [perform, Desk.map, found]
      | some taken => simp [perform, Desk.map, found, fills.check]
  | reload entries => simp [perform, Desk.map, fills.reload, fills.reloaded]

theorem run_filled
    (fills : Fills model catalog content held)
    (desk : Desk Content Held)
    (operations : List (Operation Entry Question Key Check)) :
    catalog.run (desk.map content held) operations =
      (model.run desk operations).map content held := by
  induction operations generalizing desk with
  | nil => rfl
  | cons operation later ih =>
      rw [run, List.foldl_cons, ← run, perform_filled fills, ih]
      rfl

theorem answers_filled
    (fills : Fills model catalog content held)
    (desk : Desk Content Held)
    (operations : List (Operation Entry Question Key Check)) :
    catalog.answers (desk.map content held) operations = model.answers desk operations := by
  induction operations generalizing desk with
  | nil => rfl
  | cons operation later ih =>
      rw [answers, answers, perform_filled fills]
      dsimp only
      rw [ih]

end Fills

end Catalog

end Operations

end SqlGate
