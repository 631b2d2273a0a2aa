import Mathlib.Data.List.TakeWhile
import SqlGate.Proofs.Wire.Reading

/-!
# What a failing reader leaves

A reader that fails leaves the cursor where the failure met it. `FailsAs` states this of one run
of a reader, as `Ensures` does for a run that succeeds, and follows the reader in the same steps.
A field of a known size, or one that a zero byte must end, is taken in full or not at all.
-/

namespace SqlGate.Reader

set_option autoImplicit false

variable {α β : Type}

/-- If the reader fails here, then with a problem and a place like these. -/
def FailsAs (reader : Reader α) (cursor : Cursor) (post : WireError → Cursor → Prop) : Prop :=
  ∀ problem left, reader cursor = .error problem left → post problem left

section FailsAs

variable {cursor : Cursor}
variable {post : WireError → Cursor → Prop}

theorem bind_eq_of_error
    {first : Reader α}
    {next : α → Reader β}
    {problem : WireError}
    {left : Cursor}
    (failed : first cursor = .error problem left) :
    (first >>= next) cursor = .error problem left := by
  change EStateM.bind first next cursor = _
  rw [EStateM.bind, failed]

theorem FailsAs.bind
    {first : Reader α}
    {next : α → Reader β}
    (begins : first.FailsAs cursor post)
    (goesOn : first.Ensures cursor fun value left => (next value).FailsAs left post) :
    (first >>= next).FailsAs cursor post := by
  intro problem final failed
  cases begun : first cursor with
  | ok value left =>
      rw [bind_eq_of_ok begun] at failed
      exact goesOn value left begun problem final failed
  | error other left =>
      rw [bind_eq_of_error begun] at failed
      cases failed
      exact begins _ _ begun

theorem FailsAs.pure (value : α) : (Pure.pure value : Reader α).FailsAs cursor post := by
  intro problem final failed
  cases failed

theorem FailsAs.throw {problem : WireError} (holds : post problem cursor) :
    (MonadExcept.throw problem : Reader α).FailsAs cursor post := by
  intro other final failed
  cases failed
  exact holds

theorem FailsAs.map {first : Reader α} (begins : first.FailsAs cursor post) (change : α → β) :
    (first >>= fun value => Pure.pure (change value)).FailsAs cursor post :=
  begins.bind fun _ _ _ => .pure _

theorem FailsAs.mono
    {reader : Reader α}
    {weaker : WireError → Cursor → Prop}
    (fails : reader.FailsAs cursor post)
    (implied : ∀ problem left, post problem left → weaker problem left) :
    reader.FailsAs cursor weaker := by
  intro problem left failed
  exact implied problem left (fails problem left failed)

end FailsAs

theorem take_failsAs (count : Nat) (field : FieldKind) (cursor : Cursor) :
    (take count field).FailsAs cursor fun problem left =>
      left = cursor ∧
        cursor.rest.length < count ∧
        problem = .short field count cursor.rest.length := by
  intro problem left failed
  simp only [take, List.splitAt_eq] at failed
  split at failed
  · cases failed
  · rename_i few
    cases failed
    rw [List.length_take] at few
    exact ⟨rfl, by omega, rfl⟩

theorem take_of_few {count : Nat} {left : Bytes} (few : left.length < count)
    (field : FieldKind)
    (position : Nat) :
    take count field ⟨position, left⟩ =
      .error (.short field count left.length) ⟨position, left⟩ := by
  have short : (left.take count).length ≠ count := by
    rw [List.length_take]
    omega
  simp only [take, List.splitAt_eq, if_neg short, Cursor.remaining]

theorem untilZero_failsAs (cursor : Cursor) :
    untilZero.FailsAs cursor fun problem left =>
      left = cursor ∧ 0 ∉ cursor.rest ∧ problem = .unterminated := by
  intro problem left failed
  simp only [untilZero] at failed
  split at failed
  · rename_i none
    cases failed
    have whole := @List.takeWhile_append_dropWhile _ (· != (0 : UInt8)) cursor.rest
    rw [none, List.append_nil] at whole
    exact ⟨rfl, whole ▸ zero_notMem_takeWhile cursor.rest, rfl⟩
  · cases failed

theorem untilZero_of_noZero {left : Bytes} (noZero : 0 ∉ left) (position : Nat) :
    untilZero ⟨position, left⟩ = .error .unterminated ⟨position, left⟩ := by
  have none : left.dropWhile (· != 0) = [] := by
    rw [List.dropWhile_eq_nil_iff]
    intro byte member
    exact bne_iff_ne.mpr fun zero => noZero (zero ▸ member)
  simp only [untilZero, none]

end SqlGate.Reader
