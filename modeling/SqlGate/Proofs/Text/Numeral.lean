import SqlGate.Text.Numeral

/-!
# Decimal numerals

A numeral of a number has its digits, behind any zeros and perhaps a plus sign. Just these texts
are read as the number, and where a limit is set only if the number is below it.
-/

namespace SqlGate.Numeral

set_option autoImplicit false

inductive Writes : String → Nat → Prop where
  | plain (zeros number : Nat) :
      Writes (String.ofList (List.replicate zeros '0') ++ toString number) number
  | signed (zeros number : Nat) :
      Writes ("+" ++ String.ofList (List.replicate zeros '0') ++ toString number) number

/-! ## Digits -/

section Digits

variable {letter : Char}
variable {letters : List Char}

theorem toNat_bounds (digit : letter.isDigit = true) : 48 ≤ letter.toNat ∧ letter.toNat ≤ 57 :=
  Char.isDigit_iff_toNat.mp digit

theorem sub_lt_ten (digit : letter.isDigit = true) : letter.toNat - '0'.toNat < 10 := by
  have bounds := toNat_bounds digit
  change letter.toNat - 48 < 10
  omega

theorem digitChar_sub (digit : letter.isDigit = true) :
    (letter.toNat - '0'.toNat).digitChar = letter := by
  have bounds := toNat_bounds digit
  apply Char.toNat_inj.mp
  rw [Nat.toNat_digitChar_of_lt_ten (sub_lt_ten digit)]
  change 48 + (letter.toNat - 48) = _
  omega

theorem toDigits_sub (digit : letter.isDigit = true) :
    Nat.toDigits 10 (letter.toNat - '0'.toNat) = [letter] := by
  rw [Nat.toDigits_of_lt_base (sub_lt_ten digit), digitChar_sub digit]

theorem digit?_ten (letter : Char) :
    digit? 10 letter = if letter.isDigit then some (letter.toNat - '0'.toNat) else none := by
  have within : ('0' ≤ letter && letter ≤ '9') = letter.isDigit := rfl
  unfold digit?
  rw [within]
  cases digit : letter.isDigit with
  | true => exact if_pos (sub_lt_ten digit)
  | false =>
      -- A letter of the alphabet counts ten or more.
      refine if_neg (Nat.not_lt.mpr ?_)
      simp only [Bool.false_eq_true, if_false]
      split
      · exact Nat.le_add_left _ _
      · split
        · exact Nat.le_add_left _ _
        · exact Nat.le_refl _

theorem continue?_ten (value : Nat) (letters : List Char) :
    continue? 10 value letters =
      if letters.all Char.isDigit then some (Nat.ofDigitChars 10 letters value) else none := by
  induction letters generalizing value with
  | nil => rfl
  | cons letter rest ih =>
      rw [continue?, digit?_ten, List.all_cons]
      cases digit : letter.isDigit with
      | false => rfl
      | true =>
          rw [if_pos rfl, Bool.true_and, Nat.ofDigitChars_cons, Nat.mul_comm 10]
          exact ih _

theorem ofDigits?_ten (letters : List Char) :
    ofDigits? 10 letters =
      if letters ≠ [] ∧ letters.all Char.isDigit then some (Nat.ofDigitChars 10 letters 0)
      else none := by
  cases letters with
  | nil => rfl
  | cons letter rest => simp [ofDigits?, continue?_ten]

/-- Digits behind a number that is not zero are further digits of it. -/
theorem toDigits_append
    {value : Nat}
    (positive : 0 < value)
    (digits : letters.all Char.isDigit = true) :
    Nat.toDigits 10 value ++ letters = Nat.toDigits 10 (Nat.ofDigitChars 10 letters value) := by
  -- The number in front grows by a digit at each step, and never becomes zero again.
  induction letters generalizing value with
  | nil => simp
  | cons letter rest ih =>
      rw [List.all_cons, Bool.and_eq_true] at digits
      obtain ⟨digit, others⟩ := digits
      calc
        Nat.toDigits 10 value ++ letter :: rest
          = Nat.toDigits 10 value ++ Nat.toDigits 10 (letter.toNat - '0'.toNat) ++ rest := by
            rw [toDigits_sub digit, List.append_assoc, List.singleton_append]
        _ = Nat.toDigits 10 (10 * value + (letter.toNat - '0'.toNat)) ++ rest := by
            rw [Nat.toDigits_append_toDigits (by decide) positive (sub_lt_ten digit)]
        _ = Nat.toDigits 10 (Nat.ofDigitChars 10 (letter :: rest) value) := by
            rw [ih (by omega) others, Nat.ofDigitChars_cons]

/-- Any digits are those of the number that they write, behind some zeros. -/
theorem eq_zeros_append_toDigits
    (nonempty : letters ≠ [])
    (digits : letters.all Char.isDigit = true) :
    ∃ zeros, letters =
      List.replicate zeros '0' ++ Nat.toDigits 10 (Nat.ofDigitChars 10 letters 0) := by
  induction letters with
  | nil => exact absurd rfl nonempty
  | cons letter rest ih =>
      rw [List.all_cons, Bool.and_eq_true] at digits
      obtain ⟨digit, others⟩ := digits
      by_cases zero : letter = '0'
      · subst zero
        -- The last digit is no zero in front, also where it is zero.
        by_cases last : rest = []
        · subst last
          exact ⟨0, rfl⟩
        · obtain ⟨zeros, split⟩ := ih last others
          refine ⟨zeros + 1, ?_⟩
          rw [List.replicate_succ, List.cons_append]
          exact congrArg _ split
      · have positive : 0 < letter.toNat - '0'.toNat := by
          have bounds := toNat_bounds digit
          have other : letter.toNat ≠ 48 := fun same => zero (Char.toNat_inj.mp same)
          change 0 < letter.toNat - 48
          omega
        have written := toDigits_append positive others
        rw [toDigits_sub digit, List.singleton_append] at written
        refine ⟨0, ?_⟩
        rw [List.replicate_zero, List.nil_append, Nat.ofDigitChars_cons, Nat.mul_zero, Nat.zero_add]
        exact written

theorem all_isDigit (zeros number : Nat) :
    (List.replicate zeros '0' ++ Nat.toDigits 10 number).all Char.isDigit = true := by
  simp only [List.all_append, Bool.and_eq_true, List.all_eq_true]
  constructor
  · intro letter listed
    rw [List.eq_of_mem_replicate listed]
    rfl
  · intro letter listed
    exact Nat.isDigit_of_mem_toDigits (by decide) (by decide) listed

theorem ofDigits?_eq_some {number : Nat} :
    ofDigits? 10 letters = some number ↔
      ∃ zeros, letters = List.replicate zeros '0' ++ Nat.toDigits 10 number := by
  rw [ofDigits?_ten]
  constructor
  · intro reads
    split at reads
    · rename_i digits
      cases reads
      exact eq_zeros_append_toDigits digits.1 digits.2
    · cases reads
  · rintro ⟨zeros, rfl⟩
    have nonempty := List.append_ne_nil_of_right_ne_nil (List.replicate zeros '0')
      (Nat.toDigits_ne_nil (b := 10) (n := number))
    rw [if_pos ⟨nonempty, all_isDigit zeros number⟩, Nat.ofDigitChars_append,
      Nat.ofDigitChars_replicate_zero, Nat.mul_zero, Nat.ofDigitChars_ten_toDigits]

end Digits

/-! ## Numerals -/

theorem writes_iff {text : String} {number : Nat} :
    Writes text number ↔
      ∃ zeros, text.toList = List.replicate zeros '0' ++ Nat.toDigits 10 number ∨
        text.toList = '+' :: (List.replicate zeros '0' ++ Nat.toDigits 10 number) := by
  constructor
  · intro writes
    cases writes with
    | plain zeros => exact ⟨zeros, .inl (by simp)⟩
    | signed zeros => exact ⟨zeros, .inr (by simp)⟩
  · rintro ⟨zeros, plain | signed⟩
    · have same : text = String.ofList (List.replicate zeros '0') ++ toString number := by
        rw [← String.toList_inj, plain]
        simp
      exact same ▸ .plain zeros number
    · have same : text = "+" ++ String.ofList (List.replicate zeros '0') ++ toString number := by
        rw [← String.toList_inj, signed]
        simp
      exact same ▸ .signed zeros number

theorem digits_ne_plus (zeros number : Nat) (rest : List Char) :
    List.replicate zeros '0' ++ Nat.toDigits 10 number ≠ '+' :: rest := by
  intro same
  have digits := all_isDigit zeros number
  rw [same] at digits
  cases digits

theorem natural?_eq_some {text : String} {number : Nat} :
    natural? 10 text.toList = some number ↔ Writes text number := by
  rw [writes_iff]
  unfold natural?
  split
  · rename_i digits starts
    rw [starts, ofDigits?_eq_some]
    constructor
    · rintro ⟨zeros, rfl⟩
      exact ⟨zeros, .inr rfl⟩
    · rintro ⟨zeros, plain | signed⟩
      · exact absurd plain.symm (digits_ne_plus zeros number digits)
      · exact ⟨zeros, (List.cons.inj signed).2⟩
  · rename_i unsigned
    rw [ofDigits?_eq_some]
    constructor
    · rintro ⟨zeros, plain⟩
      exact ⟨zeros, .inl plain⟩
    · rintro ⟨zeros, plain | signed⟩
      · exact ⟨zeros, plain⟩
      · exact absurd signed (unsigned _)

theorem Writes.unique
    {text : String}
    {number other : Nat}
    (writes : Writes text number)
    (writesOther : Writes text other) :
    number = other :=
  Option.some.inj ((natural?_eq_some.mpr writes).symm.trans (natural?_eq_some.mpr writesOther))

theorem below?_eq_some {limit : Nat} {text : String} {number : Nat} :
    below? limit text = some number ↔ Writes text number ∧ number < limit := by
  rw [below?, Option.filter_eq_some_iff, natural?_eq_some, decide_eq_true_eq]

end SqlGate.Numeral
