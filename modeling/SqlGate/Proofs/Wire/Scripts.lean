import SqlGate.Proofs.Wire.Windows

/-!
# Reads one after another

A script reads a packet step by step and may go by all that it has read: it may ask for as many
bytes as a number said, or try another read where one has failed. Whatever it asks for, it keeps
to the packet, and each of its steps is about the bytes between two places that only advance.
-/

namespace SqlGate

set_option autoImplicit false

/-- What to read first, and how to go on after the answer. -/
inductive Script : Type 1 where
  | stop
  | ask {α : Type} (read : Read α) (next : Except WireError α → Script)

namespace Script

structure Step (Place : Type) : Type 1 where
  {α : Type}
  read : Read α
  before : Place
  answer : Except WireError α
  after : Place

def Step.map {Place Other : Type} (change : Place → Other) (step : Step Place) : Step Other :=
  ⟨step.read, change step.before, step.answer, change step.after⟩

def steps : Script → Cursor → List (Step Cursor)
  | stop, _ => []
  | ask read next, cursor =>
      match read.reader cursor with
      | .ok value left => ⟨read, cursor, .ok value, left⟩ :: (next (.ok value)).steps left
      | .error problem left =>
          ⟨read, cursor, .error problem, left⟩ :: (next (.error problem)).steps left

/-- The same by index, up to the first breach. -/
def indexedSteps : Script → Window → Checked (List (Step Window))
  | stop, _ => .ok []
  | ask read next, window =>
      match read.indexed window with
      | .ok (answer, after) =>
          ((next answer).indexedSteps after).map (⟨read, window, answer, after⟩ :: ·)
      | .error breach => .error breach

end Script

/-! ## One step -/

structure Cursor.Within (payload : Bytes) (cursor : Cursor) : Prop where
  bounded : cursor.position ≤ payload.length
  conserved : cursor.position + cursor.remaining = payload.length
  more : cursor.hasRemaining = true ↔ 0 < cursor.remaining
  rest : cursor.rest = payload.drop cursor.position

/-- The answer of a step is made of the bytes between its places, and of nothing else. -/
structure Script.Step.KeepsTo (payload : Bytes) (step : Step Cursor) : Prop where
  before : step.before.Within payload
  after : step.after.Within payload
  advances : step.before.position ≤ step.after.position
  yields : ∀ value, step.answer = .ok value →
    step.read.Yields (payload.extract step.before.position step.after.position)
      step.after.rest value
  fails : ∀ problem, step.answer = .error problem →
    step.read.Fails (payload.extract step.before.position step.after.position)
      step.after.rest problem

namespace Cursor

variable {payload : Bytes}
variable {cursor left : Cursor}

theorem Within.of_rest
    (bounded : cursor.position ≤ payload.length)
    (rest : cursor.rest = payload.drop cursor.position) :
    cursor.Within payload := by
  refine ⟨bounded, ?_, hasRemaining_iff cursor, rest⟩
  rw [remaining, rest, List.length_drop]
  exact Nat.add_sub_cancel' bounded

theorem within_ofPayload (payload : Bytes) : (ofPayload payload).Within payload :=
  .of_rest (Nat.zero_le _) rfl

/-- Bytes that begin what is left are those up to the place behind them. -/
theorem Within.taken
    (within : cursor.Within payload)
    {taken : Bytes}
    (split : cursor.rest = taken ++ left.rest)
    (place : left.position = cursor.position + taken.length) :
    left.Within payload ∧
      cursor.position ≤ left.position ∧
      payload.extract cursor.position left.position = taken := by
  have dropped := within.rest
  rw [split] at dropped
  refine ⟨Within.of_rest ?_ ?_, place ▸ Nat.le_add_right _ _, ?_⟩
  · have conserved := within.conserved
    rw [remaining, split, List.length_append] at conserved
    omega
  · rw [place, ← List.drop_drop, ← dropped, List.drop_left]
  · rw [List.extract_eq_take_drop, place, Nat.add_sub_cancel_left, ← dropped, List.take_left]

end Cursor

namespace Script

section Steps

variable {α : Type}
variable {payload : Bytes}
variable {cursor left : Cursor}

theorem keepsTo_of_ok
    {read : Read α}
    {value : α}
    (within : cursor.Within payload)
    (succeeded : read.reader cursor = .ok value left) :
    Step.KeepsTo payload ⟨read, cursor, .ok value, left⟩ := by
  obtain ⟨taken, split, place, yields⟩ := Read.reader_eq_ok.mp succeeded
  obtain ⟨after, advances, same⟩ := within.taken split place
  subst same
  refine ⟨within, after, advances, ?_, nofun⟩
  intro other answer
  cases answer
  exact yields

theorem keepsTo_of_error
    {read : Read α}
    {problem : WireError}
    (within : cursor.Within payload)
    (failed : read.reader cursor = .error problem left) :
    Step.KeepsTo payload ⟨read, cursor, .error problem, left⟩ := by
  obtain ⟨taken, split, place, fails⟩ := Read.reader_eq_error.mp failed
  obtain ⟨after, advances, same⟩ := within.taken split place
  subst same
  refine ⟨within, after, advances, nofun, ?_⟩
  intro other answer
  cases answer
  exact fails

/-- However the first read ends, its step keeps to the packet and the others go on behind it. -/
theorem steps_ask
    (read : Read α)
    (next : Except WireError α → Script)
    (within : cursor.Within payload) :
    ∃ answer left,
      (ask read next).steps cursor = ⟨read, cursor, answer, left⟩ :: (next answer).steps left ∧
        Step.KeepsTo payload ⟨read, cursor, answer, left⟩ := by
  rw [steps]
  cases ended : read.reader cursor with
  | ok value left => exact ⟨.ok value, left, rfl, keepsTo_of_ok within ended⟩
  | error problem left => exact ⟨.error problem, left, rfl, keepsTo_of_error within ended⟩

theorem keepsTo_steps (script : Script) (within : cursor.Within payload) :
    ∀ step ∈ script.steps cursor, step.KeepsTo payload := by
  induction script generalizing cursor with
  | stop => exact List.forall_mem_nil _
  | ask read next ih =>
      obtain ⟨answer, left, same, kept⟩ := steps_ask read next within
      rw [same]
      exact List.forall_mem_cons.mpr ⟨kept, ih answer kept.after⟩

theorem position_le_steps (script : Script) (within : cursor.Within payload) :
    ∀ step ∈ script.steps cursor, cursor.position ≤ step.before.position := by
  induction script generalizing cursor with
  | stop => exact List.forall_mem_nil _
  | ask read next ih =>
      obtain ⟨answer, left, same, kept⟩ := steps_ask read next within
      rw [same]
      refine List.forall_mem_cons.mpr ⟨Nat.le_refl _, ?_⟩
      intro step member
      exact Nat.le_trans kept.advances (ih answer kept.after step member)

theorem pairwise_steps (script : Script) (within : cursor.Within payload) :
    (script.steps cursor).Pairwise fun earlier later =>
      earlier.after.position ≤ later.before.position := by
  induction script generalizing cursor with
  | stop => exact .nil
  | ask read next ih =>
      obtain ⟨answer, left, same, kept⟩ := steps_ask read next within
      rw [same]
      exact .cons (position_le_steps _ kept.after) (ih answer kept.after)

/-- No step by index is a breach, and each is the step at the cursor. -/
theorem indexedSteps_eq (script : Script) {window : Window} (sound : window.Sound) :
    ∃ taken,
      script.indexedSteps window = .ok taken ∧
        taken.map (Step.map Window.cursor) = script.steps window.cursor ∧
        ∀ step ∈ taken, ∀ place ∈ [step.before, step.after],
          place.Sound ∧ place.data = window.data := by
  induction script generalizing window with
  | stop => exact ⟨[], rfl, rfl, List.forall_mem_nil _⟩
  | ask read next ih =>
      obtain ⟨⟨answer, after⟩, run, same, soundAfter, ended⟩ := read.follows sound
      obtain ⟨later, runLater, shown, placed⟩ := ih answer soundAfter
      have places : ∀ place ∈ [window, after], place.Sound ∧ place.data = window.data :=
        List.forall_mem_cons.mpr ⟨⟨sound, rfl⟩, List.forall_mem_singleton.mpr ⟨soundAfter, same⟩⟩
      refine ⟨⟨read, window, answer, after⟩ :: later, ?_, ?_, ?_⟩
      · rw [indexedSteps, run]
        change Except.map _ _ = _
        rw [runLater]
        rfl
      · rw [steps, ended]
        cases answer with
        | ok value => exact congrArg (_ :: ·) shown
        | error problem => exact congrArg (_ :: ·) shown
      · exact List.forall_mem_cons.mpr ⟨places, same ▸ placed⟩

end Steps

end Script

/-- Whatever is read from a packet, one read after another, no place lies beyond its end or
before an earlier one, and place and remaining bytes make up the whole. A read that succeeds
yields its value from the bytes that it moved over, and one that fails has moved over no others
than its problem says. In a packet that fits into memory no sum of indices overflows and no
slice is out of range. -/
theorem reads_keep_to_their_packet (payload : Bytes) (script : Script) :
    (∀ step ∈ script.steps (Cursor.ofPayload payload), step.KeepsTo payload) ∧
    (script.steps (Cursor.ofPayload payload)).Pairwise
      (fun earlier later => earlier.after.position ≤ later.before.position) ∧
    (payload.length < UInt64.size →
      ∃ taken,
        script.indexedSteps (Window.ofPayload payload) = .ok taken ∧
          taken.map (Script.Step.map Window.cursor) = script.steps (Cursor.ofPayload payload) ∧
          ∀ step ∈ taken, ∀ place ∈ [step.before, step.after],
            ∃ left,
              place.remaining = .ok left ∧
                place.index.toNat + left.toNat = payload.length ∧
                (place.hasRemaining = true ↔ 0 < left)) := by
  have within := Cursor.within_ofPayload payload
  refine ⟨script.keepsTo_steps within, script.pairwise_steps within, ?_⟩
  intro addressable
  have sound : (Window.ofPayload payload).Sound := ⟨addressable, Nat.zero_le _⟩
  obtain ⟨taken, run, shown, places⟩ := script.indexedSteps_eq sound
  refine ⟨taken, run, shown, ?_⟩
  intro step member place among
  obtain ⟨soundPlace, same⟩ := places step member place among
  have conserved := soundPlace.conserved
  rw [same] at conserved
  exact conserved

namespace Script

def counted (next : Script) : Script :=
  .ask .lengthEncoded fun
    | .ok count => .ask (.fixed count) fun _ => next
    | .error _ => next

/-- The greatest length of all, a text of two bytes behind its length, and one byte more. -/
def greatestLength : Bytes :=
  [0xFE, 0xFF, 0xFF, 0xFF, 0xFF, 0xFF, 0xFF, 0xFF, 0xFF, 2, 0x61, 0, 0x62]

end Script

/-- As many bytes as the greatest length says are asked for and refused, without a breach. The
next length is good, and the last byte is left behind its text. -/
theorem greatest_length_is_no_breach :
    Script.greatestLength.length < UInt64.size ∧
      ∃ taken,
        (Script.counted (.counted (.ask .toEnd fun _ => .stop))).indexedSteps
            (Window.ofPayload Script.greatestLength) = .ok taken ∧
          taken.map (·.after.cursor.position) = [9, 9, 10, 12, 13] := by
  have addressable : Script.greatestLength.length < UInt64.size := by decide
  obtain ⟨_, _, indexed⟩ := reads_keep_to_their_packet Script.greatestLength
    (.counted (.counted (.ask .toEnd fun _ => .stop)))
  obtain ⟨taken, run, shown, _⟩ := indexed addressable
  refine ⟨addressable, taken, run, ?_⟩
  have places := congrArg (List.map fun step => step.after.position) shown
  rw [List.map_map] at places
  refine places.trans ?_
  decide +kernel

end SqlGate
