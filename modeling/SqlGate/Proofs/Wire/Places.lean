import SqlGate.Proofs.Wire.Fields

/-!
# Readers and their places

Most readers go by the bytes that are left, wherever in a packet these stand. What such a reader
answers, be it a value or a problem, is what it answers on a packet of just these bytes.
`Answers` states the answer of a reader on some bytes, and follows the reader step by step.
-/

namespace SqlGate

set_option autoImplicit false

def Cursor.after (payload : Bytes) (count : Nat) : Cursor := ⟨count, payload.drop count⟩

namespace Reader

variable {α β : Type}

def outcome : EStateM.Result WireError Cursor α → Except WireError (α × Bytes)
  | .ok value left => .ok (value, left.rest)
  | .error problem _ => .error problem

/-- The reader goes by the bytes that are left, and not by their place. -/
def Placeless (reader : Reader α) : Prop :=
  ∀ place other rest, outcome (reader ⟨place, rest⟩) = outcome (reader ⟨other, rest⟩)

def Answers (reader : Reader α) (bytes : Bytes) (answer : Except WireError α) : Prop :=
  ∀ position, (outcome (reader ⟨position, bytes⟩)).map Prod.fst = answer

section Placeless

variable {first : Reader α}
variable {next : α → Reader β}

theorem outcome_bind (goesOn : ∀ value, (next value).Placeless) (cursor : Cursor) :
    outcome ((first >>= next) cursor) =
      (outcome (first cursor)).bind fun read => outcome (next read.1 ⟨0, read.2⟩) := by
  change outcome (EStateM.bind first next cursor) = _
  unfold EStateM.bind
  cases first cursor with
  | error problem left => rfl
  | ok value left => exact goesOn value _ _ _

theorem Placeless.bind
    (begins : first.Placeless)
    (goesOn : ∀ value, (next value).Placeless) :
    (first >>= next).Placeless := by
  intro place other rest
  rw [outcome_bind goesOn, outcome_bind goesOn, begins place other]

theorem Placeless.pure (value : α) : (Pure.pure value : Reader α).Placeless := by
  intro place other rest
  rfl

theorem more_placeless : more.Placeless := by
  intro place other rest
  rfl

theorem untilZero_placeless : untilZero.Placeless := by
  intro place other rest
  simp only [untilZero]
  split
  · rfl
  · rfl

theorem textUntilZero_placeless : textUntilZero.Placeless :=
  untilZero_placeless.bind fun _ => .pure _

end Placeless

section Answers

variable {first : Reader α}
variable {next : α → Reader β}
variable {value : α}
variable {bytes rest : Bytes}
variable {answer : Except WireError β}

theorem runOn_eq (reader : Reader α) (payload : Bytes) :
    reader.runOn payload = (outcome (reader ⟨0, payload⟩)).map Prod.fst := by
  unfold runOn Cursor.ofPayload
  cases reader ⟨0, payload⟩ with
  | error problem left => rfl
  | ok value left => rfl

theorem Answers.runOn {reader : Reader β} (answers : reader.Answers bytes answer) :
    reader.runOn bytes = answer := by
  rw [runOn_eq]
  exact answers 0

theorem Placeless.answers {reader : Reader α} (placeless : reader.Placeless) (bytes : Bytes) :
    reader.Answers bytes (reader.runOn bytes) := by
  intro position
  rw [runOn_eq, placeless position 0]

theorem Takes.thenAnswers
    (begins : first.Takes bytes value)
    (goesOn : (next value).Answers rest answer) :
    (first >>= next).Answers (bytes ++ rest) answer := by
  intro position
  change (outcome (EStateM.bind first next _)).map Prod.fst = _
  rw [EStateM.bind, begins]
  exact goesOn _

theorem Takes.thenAnswers_cons {byte : UInt8}
    (begins : first.Takes [byte] value)
    (goesOn : (next value).Answers rest answer) :
    (first >>= next).Answers (byte :: rest) answer :=
  begins.thenAnswers goesOn

theorem Answers.more
    {next : Bool → Reader β}
    (goesOn : (next !bytes.isEmpty).Answers bytes answer) :
    (Reader.more >>= next).Answers bytes answer := by
  intro position
  exact goesOn position

theorem Answers.map
    {reader : Reader α}
    {answer : Except WireError α}
    (answers : reader.Answers bytes answer)
    (change : α → β) :
    (reader >>= fun value => Pure.pure (change value)).Answers bytes (answer.map change) := by
  intro position
  rw [outcome_bind fun _ => .pure _, ← answers position]
  cases outcome (reader ⟨position, bytes⟩) with
  | error problem => rfl
  | ok read => rfl

end Answers

end Reader

end SqlGate
