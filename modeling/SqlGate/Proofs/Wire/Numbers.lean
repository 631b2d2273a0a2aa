import Mathlib.Tactic.SplitIfs
import SqlGate.Proofs.Wire.Reading

/-!
# Numbers in their shortest form

A number below 251 is a byte of its own, and of the bytes above that four announce the bytes
behind them. So one number can be read from several forms. It is written in the shortest of
them, and in the only one of that length: the marker of an absent value, which reads as zero,
is the one exception. Where a form ends is told by its first byte, so no form begins another.
-/

namespace SqlGate

set_option autoImplicit false

namespace Field

def announced (first : UInt8) : Nat :=
  if first = 0xFC then 2 else if first = 0xFD then 3 else if first = 0xFE then 8 else 0

/-- The forms of a number, the shortest or not. Nothing follows the marker of an absent value,
and no bytes are the number zero. -/
inductive Form : Bytes → UInt64 → Prop where
  | byte (first : UInt8) (unmarked : first < 251) : Form [first] first.toUInt64
  | marked
      (first : UInt8)
      (digits : Bytes)
      (marker : ¬ first < 251)
      (unreserved : first ≠ 0xFF)
      (whole : digits.length = announced first) :
      Form (first :: digits) (UInt64.ofNat (Bytes.toNatLE digits))

theorem marker_cases {first : UInt8} (marker : ¬ first < 251) (unreserved : first ≠ 0xFF) :
    first = 0xFB ∨ first = 0xFC ∨ first = 0xFD ∨ first = 0xFE := by
  rw [UInt8.lt_iff_toNat_lt] at marker
  simp only [ne_eq, ← UInt8.toNat_inj] at unreserved ⊢
  have bound := first.toNat_lt
  simp at *
  omega

theorem ne_marker {first marker : UInt8} (unmarked : first < 251) (high : ¬ marker < 251) :
    first ≠ marker :=
  fun same => high (same ▸ unmarked)

theorem announced_unmarked {first : UInt8} (unmarked : first < 251) : announced first = 0 := by
  rw [announced, if_neg (ne_marker unmarked (by decide)), if_neg (ne_marker unmarked (by decide)),
    if_neg (ne_marker unmarked (by decide))]

theorem announced_le (first : UInt8) : announced first ≤ 8 := by
  unfold announced
  split_ifs
  all_goals decide

/-! ## The written form -/

def needed (value : UInt64) : Nat :=
  if value < 251 then 0 else if value < 65536 then 2 else if value < 16777216 then 3 else 8

theorem lengthEncoded_eq (value : UInt64) :
    lengthEncoded value =
      match needed value with
      | 0 => [value.toUInt8]
      | 2 => 0xFC :: Bytes.ofNatLE 2 value.toNat
      | 3 => 0xFD :: Bytes.ofNatLE 3 value.toNat
      | _ => 0xFE :: Bytes.ofNatLE 8 value.toNat := by
  unfold lengthEncoded needed
  split_ifs
  all_goals rfl

theorem length_lengthEncoded (value : UInt64) :
    (lengthEncoded value).length = needed value + 1 := by
  unfold lengthEncoded needed
  split_ifs
  all_goals simp

section Marked

variable {first : UInt8}
variable {value : UInt64}

/-- No form is shorter than the written one. -/
theorem needed_le
    (marker : ¬ first < 251)
    (unreserved : first ≠ 0xFF)
    (fits : value.toNat < Nat.pow 256 (announced first)) :
    needed value ≤ announced first := by
  rcases marker_cases marker unreserved with rfl | rfl | rfl | rfl
  · have small : value < 251 := UInt64.lt_iff_toNat_lt.mpr (Nat.lt_trans fits (by decide))
    rw [needed, if_pos small]
    exact Nat.zero_le _
  · have small : value < 65536 := UInt64.lt_iff_toNat_lt.mpr fits
    rw [needed, if_pos small]
    split_ifs
    all_goals decide
  · have small : value < 16777216 := UInt64.lt_iff_toNat_lt.mpr fits
    rw [needed, if_pos small]
    split_ifs
    all_goals decide
  · unfold needed
    split_ifs
    all_goals decide

/-- Each of the other markers is written before as many bytes as it announces. -/
theorem lengthEncoded_of_needed
    (marker : ¬ first < 251)
    (unreserved : first ≠ 0xFF)
    (present : first ≠ 0xFB)
    (exact : needed value = announced first) :
    lengthEncoded value = first :: Bytes.ofNatLE (announced first) value.toNat := by
  rw [lengthEncoded_eq, exact]
  rcases marker_cases marker unreserved with rfl | rfl | rfl | rfl
  · exact absurd rfl present
  all_goals rfl

end Marked

section Digits

variable {digits : Bytes}

theorem toNat_digits (short : digits.length ≤ 8) :
    (UInt64.ofNat (Bytes.toNatLE digits)).toNat = Bytes.toNatLE digits := by
  have bound := Bytes.toNatLE_lt digits
  have wide : Nat.pow 256 digits.length ≤ Nat.pow 256 8 := Nat.pow_le_pow_right (by decide) short
  rw [UInt64.toNat_ofNat']
  exact Nat.mod_eq_of_lt (Nat.lt_of_lt_of_le bound wide)

theorem ofNatLE_digits (short : digits.length ≤ 8) :
    Bytes.ofNatLE digits.length (UInt64.ofNat (Bytes.toNatLE digits)).toNat = digits := by
  rw [toNat_digits short, Bytes.ofNatLE_toNatLE]

end Digits

/-- A form is the written one, or longer, or the marker of an absent value. -/
theorem Form.written_or_longer {bytes : Bytes} {value : UInt64} (form : Form bytes value) :
    lengthEncoded value = bytes ∨
      (lengthEncoded value).length < bytes.length ∨
      (bytes = [0xFB] ∧ value = 0) := by
  cases form with
  | byte first unmarked =>
      left
      have small : first.toUInt64 < 251 := by
        rw [UInt64.lt_iff_toNat_lt, UInt8.toNat_toUInt64]
        exact UInt8.lt_iff_toNat_lt.mp unmarked
      rw [lengthEncoded, if_pos small]
      simp
  | marked first digits marker unreserved whole =>
      have short : digits.length ≤ 8 := whole ▸ announced_le first
      have fits := Bytes.toNatLE_lt digits
      rw [← toNat_digits short, whole] at fits
      rcases Nat.lt_or_eq_of_le (needed_le marker unreserved fits) with less | exact
      · right
        left
        rw [length_lengthEncoded, List.length_cons, whole]
        exact Nat.succ_lt_succ less
      · by_cases absent : first = 0xFB
        · right
          right
          subst absent
          cases List.length_eq_zero_iff.mp whole
          exact ⟨rfl, rfl⟩
        · left
          rw [lengthEncoded_of_needed marker unreserved absent exact, ← whole, ofNatLE_digits short]

end Field

namespace Reader

open SqlGate.Field

theorem integer_ensures (width : Nat) (cursor : Cursor) :
    (integer width).Ensures cursor fun value left =>
      ∃ digits, digits.length = width ∧
        digits ++ left.rest = cursor.rest ∧
        value = Bytes.toNatLE digits := by
  apply Ensures.bind
  refine (take_ensures width _ cursor).mono ?_
  rintro digits left ⟨whole, split⟩
  exact Ensures.pure ⟨digits, whole, split, rfl⟩

theorem int1_ensures (cursor : Cursor) :
    int1.Ensures cursor fun first left => first :: left.rest = cursor.rest := by
  apply Ensures.bind
  refine (integer_ensures 1 cursor).mono ?_
  rintro _ left ⟨digits, whole, split, rfl⟩
  obtain ⟨first, rfl⟩ := List.length_eq_one_iff.mp whole
  have value : UInt8.ofNat (Bytes.toNatLE [first]) = first := by
    rw [Bytes.toNatLE, Bytes.toNatLE, Nat.mul_zero, Nat.add_zero, UInt8.ofNat_toNat]
  apply Ensures.pure
  rw [value]
  exact split

theorem integer_widened
    {Narrow : Type}
    {narrow : Nat → Narrow}
    {widen : Narrow → UInt64}
    {width : Nat}
    (same : ∀ value < Nat.pow 256 width, widen (narrow value) = UInt64.ofNat value) :
    (do return widen (← (do return narrow (← integer width))) : Reader UInt64) =
      do return UInt64.ofNat (← integer width) := by
  funext cursor
  change EStateM.bind (EStateM.bind (integer width) _) _ cursor =
    EStateM.bind (integer width) _ cursor
  unfold EStateM.bind
  cases read : integer width cursor with
  | error problem left => rfl
  | ok value left =>
      obtain ⟨digits, whole, _, rfl⟩ := integer_ensures width cursor _ _ read
      have bound := whole ▸ Bytes.toNatLE_lt digits
      exact congrArg (EStateM.Result.ok · left) (same _ bound)

/-- The marked forms differ in their widths alone. -/
theorem lengthEncoded_eq :
    lengthEncoded = do
      let first ← int1
      if first < 251 then return first.toUInt64
      else if first = 0xFF then throw .reservedMarker
      else return UInt64.ofNat (← integer (announced first)) := by
  unfold lengthEncoded
  congr 1
  funext first
  by_cases byte : first < 251
  · have other := fun marker => @ne_marker first marker byte
    rw [if_pos byte, if_neg (other 0xFB (by decide)), if_neg (other 0xFC (by decide)),
      if_neg (other 0xFD (by decide)), if_neg (other 0xFE (by decide)),
      if_neg (other 0xFF (by decide))]
  · rw [if_neg byte]
    by_cases reserved : first = 0xFF
    · subst reserved
      rfl
    · rw [if_neg reserved]
      rcases marker_cases byte reserved with rfl | rfl | rfl | rfl
      · funext cursor
        rcases cursor with ⟨position, rest⟩
        cases rest with
        | nil => rfl
        | cons byte rest => rfl
      · exact integer_widened fun value fits => UInt16.toUInt64_ofNat' fits
      · refine integer_widened fun value fits => UInt32.toUInt64_ofNat' ?_
        exact Nat.lt_trans fits (by decide)
      · rfl

theorem takes_form {bytes : Bytes} {value : UInt64} (form : Form bytes value) :
    lengthEncoded.Takes bytes value := by
  rw [lengthEncoded_eq]
  cases form with
  | byte first unmarked =>
      apply (int1_takes first).bind_cons
      rw [if_pos unmarked]
      exact Takes.pure _
  | marked first digits marker unreserved whole =>
      apply (int1_takes first).bind_cons
      rw [if_neg marker, if_neg unreserved, ← whole]
      exact ((take_takes digits (.integer digits.length)).map Bytes.toNatLE).map UInt64.ofNat

theorem lengthEncoded_ensures (cursor : Cursor) :
    lengthEncoded.Ensures cursor fun value left =>
      ∃ consumed, Form consumed value ∧ consumed ++ left.rest = cursor.rest := by
  rw [lengthEncoded_eq]
  apply Ensures.bind
  refine (int1_ensures cursor).mono ?_
  intro first afterFirst firstRead
  split
  · rename_i unmarked
    exact Ensures.pure ⟨[first], .byte first unmarked, firstRead⟩
  · rename_i marker
    split
    · exact Ensures.throw _ _
    · rename_i unreserved
      apply Ensures.bind
      refine (integer_ensures _ afterFirst).mono ?_
      rintro _ left ⟨digits, whole, split, rfl⟩
      refine Ensures.pure ⟨first :: digits, .marked first digits marker unreserved whole, ?_⟩
      rw [List.cons_append, split, firstRead]

/-- A number is read from each of its forms, and from nothing else. -/
theorem lengthEncoded_eq_ok
    {position : Nat}
    {bytes : Bytes}
    {value : UInt64}
    {left : Cursor} :
    lengthEncoded ⟨position, bytes⟩ = .ok value left ↔
      ∃ consumed,
        Form consumed value ∧
          bytes = consumed ++ left.rest ∧
          left.position = position + consumed.length := by
  constructor
  · intro read
    obtain ⟨consumed, form, split⟩ := lengthEncoded_ensures _ value left read
    change consumed ++ left.rest = bytes at split
    subst split
    rw [takes_form form] at read
    injection read with _ place
    exact ⟨consumed, form, rfl, by rw [← place]⟩
  · rintro ⟨consumed, form, rfl, place⟩
    have read := takes_form form position left.rest
    rwa [← place] at read

theorem takes_iff_form {bytes : Bytes} {value : UInt64} :
    lengthEncoded.Takes bytes value ↔ Form bytes value := by
  constructor
  · intro takes
    obtain ⟨consumed, form, split, _⟩ := lengthEncoded_eq_ok.mp (takes 0 [])
    rw [List.append_nil, List.append_nil] at split
    exact split ▸ form
  · exact takes_form

/-- A first byte that is not reserved begins a number where all that it announces is there. -/
theorem lengthEncoded_succeeds_iff {position : Nat} {bytes : Bytes} :
    (∃ value left, lengthEncoded ⟨position, bytes⟩ = .ok value left) ↔
      ∃ first rest, bytes = first :: rest ∧ first ≠ 0xFF ∧ announced first ≤ rest.length := by
  constructor
  · rintro ⟨value, left, read⟩
    obtain ⟨consumed, form, rfl, _⟩ := lengthEncoded_eq_ok.mp read
    cases form with
    | byte first unmarked =>
        refine ⟨first, left.rest, rfl, ne_marker unmarked (by decide), ?_⟩
        rw [announced_unmarked unmarked]
        exact Nat.zero_le _
    | marked first digits marker unreserved whole =>
        refine ⟨first, digits ++ left.rest, rfl, unreserved, ?_⟩
        rw [List.length_append, whole]
        exact Nat.le_add_right _ _
  · rintro ⟨first, rest, rfl, unreserved, enough⟩
    by_cases unmarked : first < 251
    · exact ⟨_, _, takes_form (.byte first unmarked) position rest⟩
    · have whole : (rest.take (announced first)).length = announced first :=
        List.length_take_of_le enough
      have taken := takes_form (.marked first _ unmarked unreserved whole) position
        (rest.drop (announced first))
      rw [List.cons_append, List.take_append_drop] at taken
      exact ⟨_, _, taken⟩

end Reader

/-- The bytes that a number is read from are no fewer than those it is written in, and if they
are as many then they are the same, unless they are the marker of an absent value. So a number
is written in the one shortest form, and no form begins another. A number can be read where
there is a first byte that is not reserved, and all that it announces. -/
theorem numbers_are_written_in_their_shortest_form :
    (∀ position bytes value left,
      Reader.lengthEncoded ⟨position, bytes⟩ = .ok value left →
        ∃ consumed,
          bytes = consumed ++ left.rest ∧
          left.position = position + consumed.length ∧
          (Field.lengthEncoded value).length ≤ consumed.length ∧
          ((Field.lengthEncoded value).length = consumed.length →
            Field.lengthEncoded value = consumed ∨ (consumed = [0xFB] ∧ value = 0))) ∧
    Reader.lengthEncoded.Takes [0xFB] 0 ∧
    (∀ value,
      Reader.lengthEncoded.Takes (Field.lengthEncoded value) value ∧
      ∀ bytes,
        Reader.lengthEncoded.Takes bytes value →
        bytes ≠ Field.lengthEncoded value →
        bytes ≠ [0xFB] →
          (Field.lengthEncoded value).length < bytes.length) ∧
    (∀ bytes longer value other,
      Reader.lengthEncoded.Takes bytes value →
      Reader.lengthEncoded.Takes longer other →
      bytes <+: longer →
        bytes = longer ∧ value = other) ∧
    ∀ position bytes,
      (∃ value left, Reader.lengthEncoded ⟨position, bytes⟩ = .ok value left) ↔
        ∃ first rest,
          bytes = first :: rest ∧ first ≠ 0xFF ∧ Field.announced first ≤ rest.length := by
  refine ⟨?_, ?_, ?_, ?_, ?_⟩
  · intro position bytes value left read
    obtain ⟨consumed, form, split, place⟩ := Reader.lengthEncoded_eq_ok.mp read
    refine ⟨consumed, split, place, ?_⟩
    rcases form.written_or_longer with same | longer | ⟨absent, zero⟩
    · exact ⟨Nat.le_of_eq (congrArg List.length same), fun _ => .inl same⟩
    · exact ⟨Nat.le_of_lt longer, fun equal => absurd equal (Nat.ne_of_lt longer)⟩
    · subst absent zero
      exact ⟨Nat.le_refl 1, fun _ => .inr ⟨rfl, rfl⟩⟩
  · exact Reader.takes_form (.marked 0xFB [] (by decide) (by decide) rfl)
  · intro value
    refine ⟨Reader.lengthEncoded_takes value, ?_⟩
    intro bytes takes other present
    rcases (Reader.takes_iff_form.mp takes).written_or_longer with same | longer | ⟨absent, _⟩
    · exact absurd same.symm other
    · exact longer
    · exact absurd absent present
  · intro bytes longer value other takes takesLonger
    exact takes.eq_of_isPrefix takesLonger
  · intro position bytes
    exact Reader.lengthEncoded_succeeds_iff

/-- Five in the longest of its forms, with a byte behind it. It is written in one byte. -/
theorem five_is_read_from_nine_bytes :
    ∃ consumed rest,
      [0xFE, 5, 0, 0, 0, 0, 0, 0, 0, 7] = consumed ++ rest ∧
        consumed.length = 9 ∧
        (Field.lengthEncoded 5).length ≤ consumed.length ∧
        Field.lengthEncoded 5 ≠ consumed := by
  have read : Reader.lengthEncoded ⟨0, [0xFE, 5, 0, 0, 0, 0, 0, 0, 0, 7]⟩ = .ok 5 ⟨9, [7]⟩ := by
    rfl
  obtain ⟨reads, _⟩ := numbers_are_written_in_their_shortest_form
  obtain ⟨consumed, split, place, shorter, _⟩ := reads 0 _ 5 ⟨9, [7]⟩ read
  have nine : consumed.length = 9 := by
    rw [← Nat.zero_add consumed.length]
    exact place.symm
  refine ⟨consumed, [7], split, nine, shorter, ?_⟩
  intro same
  rw [← same] at nine
  cases nine

end SqlGate
