import SqlGate.Text.Utf8

/-!
# Text and its bytes

Text that was written is read back unchanged (`decodeLossy_encode`). A zero byte is
written for NUL alone and read as NUL alone, so text without NUL can be ended by a zero
byte, and bytes without a zero byte are read as text without NUL.
-/

namespace SqlGate.Utf8

set_option autoImplicit false

deriving instance DecidableEq for Lead

theorem toNat_ofNat {bits : Nat} (valid : bits.isValidChar) : (Char.ofNat bits).toNat = bits := by
  rw [Char.ofNat, dif_pos valid]
  rfl

/-! ## One character -/

def tail (bits : Nat) : UInt8 := UInt8.ofNat (bits % 64 + 128)

theorem toNat_tail (bits : Nat) : (tail bits).toNat = bits % 64 + 128 := by
  rw [tail, UInt8.toNat_ofNat']
  omega

theorem extend_tail (bits : Nat) : extend (bits / 64) (tail bits) = bits := by
  have value := toNat_tail bits
  unfold extend
  omega

theorem isContinuation_tail (bits : Nat) : isContinuation (tail bits) = true := by
  have value := toNat_tail bits
  have lower : (0x80 : UInt8).toNat = 128 := rfl
  have upper : (0xBF : UInt8).toNat = 191 := rfl
  simp only [isContinuation, Bool.and_eq_true, decide_eq_true_eq, UInt8.le_iff_toNat_le, lower,
    upper]
  omega

theorem complete_tail (more bits : Nat) (rest : Bytes) :
    complete (more + 1) (bits / 64) (tail bits :: rest) = complete more bits rest := by
  rw [complete, if_pos (isContinuation_tail bits), extend_tail]

section Next

variable {bits : Nat}

theorem next_tail
    {first : UInt8}
    {lead : Lead}
    (wide : ¬ first < 0x80)
    (leads : lead? first = some lead)
    (begins : lead.bits = bits / 64)
    (lower : lead.low.toNat ≤ bits % 64 + 128)
    (upper : bits % 64 + 128 ≤ lead.high.toNat)
    (rest : Bytes) :
    next first (tail bits :: rest) = complete lead.more bits rest := by
  have inRange : (lead.low ≤ tail bits && tail bits ≤ lead.high) = true := by
    simp only [Bool.and_eq_true, decide_eq_true_eq, UInt8.le_iff_toNat_le, toNat_tail]
    exact ⟨lower, upper⟩
  simp only [next, wide, if_false, leads, inRange, if_true, begins, extend_tail]

theorem next_one (fits : bits < 0x80) (rest : Bytes) :
    next (UInt8.ofNat bits) rest = (some (Char.ofNat bits), rest) := by
  have value : (UInt8.ofNat bits).toNat = bits := by
    rw [UInt8.toNat_ofNat']
    omega
  have ascii : UInt8.ofNat bits < 0x80 := by
    rw [UInt8.lt_iff_toNat_lt, value]
    exact fits
  simp only [next, ascii, if_true, value]

theorem lead?_two : ∀ bits < 32, 2 ≤ bits →
    ¬ UInt8.ofNat (bits + 192) < 0x80 ∧
      lead? (UInt8.ofNat (bits + 192)) = some ⟨bits, 0x80, 0xBF, 0⟩ := by
  decide

theorem next_two (wide : 0x80 ≤ bits) (fits : bits < 0x800) (rest : Bytes) :
    next (UInt8.ofNat (bits / 64 % 32 + 192)) (tail bits :: rest) =
      (some (Char.ofNat bits), rest) := by
  obtain ⟨beyond, leads⟩ := lead?_two (bits / 64 % 32) (by omega) (by omega)
  have lower : (0x80 : UInt8).toNat = 128 := rfl
  have upper : (0xBF : UInt8).toNat = 191 := rfl
  rw [next_tail beyond leads]
  · rfl
  · dsimp only
    omega
  · dsimp only
    omega
  · dsimp only
    omega

/-- The range of the second byte leaves out what two bytes can hold, and the surrogates. -/
theorem lead?_three : ∀ bits < 16,
    ¬ UInt8.ofNat (bits + 224) < 0x80 ∧
      lead? (UInt8.ofNat (bits + 224)) =
        some ⟨bits, if bits = 0 then 0xA0 else 0x80, if bits = 13 then 0x9F else 0xBF, 1⟩ := by
  decide

theorem next_three
    (wide : 0x800 ≤ bits)
    (fits : bits < 0x10000)
    (isScalar : bits < 0xD800 ∨ 0xDFFF < bits)
    (rest : Bytes) :
    next (UInt8.ofNat (bits / 4096 % 16 + 224)) (tail (bits / 64) :: tail bits :: rest) =
      (some (Char.ofNat bits), rest) := by
  obtain ⟨beyond, leads⟩ := lead?_three (bits / 4096 % 16) (by omega)
  rw [next_tail beyond leads]
  · exact complete_tail 0 bits rest
  · dsimp only
    omega
  · dsimp only
    split
    · have lower : (0xA0 : UInt8).toNat = 160 := rfl
      omega
    · have lower : (0x80 : UInt8).toNat = 128 := rfl
      omega
  · dsimp only
    split
    · have upper : (0x9F : UInt8).toNat = 159 := rfl
      omega
    · have upper : (0xBF : UInt8).toNat = 191 := rfl
      omega

/-- The range of the second byte leaves out what three bytes can hold, and what is past
U+10FFFF. -/
theorem lead?_four : ∀ bits < 5,
    ¬ UInt8.ofNat (bits + 240) < 0x80 ∧
      lead? (UInt8.ofNat (bits + 240)) =
        some ⟨bits, if bits = 0 then 0x90 else 0x80, if bits = 4 then 0x8F else 0xBF, 2⟩ := by
  decide

theorem next_four (wide : 0x10000 ≤ bits) (fits : bits < 0x110000) (rest : Bytes) :
    next (UInt8.ofNat (bits / 262144 % 8 + 240))
        (tail (bits / 4096) :: tail (bits / 64) :: tail bits :: rest) =
      (some (Char.ofNat bits), rest) := by
  obtain ⟨beyond, leads⟩ := lead?_four (bits / 262144 % 8) (by omega)
  have twice : bits / 4096 = bits / 64 / 64 := by omega
  rw [next_tail beyond leads]
  · rw [twice, complete_tail 1 (bits / 64), complete_tail 0 bits]
    rfl
  · dsimp only
    omega
  · dsimp only
    split
    · have lower : (0x90 : UInt8).toNat = 144 := rfl
      omega
    · have lower : (0x80 : UInt8).toNat = 128 := rfl
      omega
  · dsimp only
    split
    · have upper : (0x8F : UInt8).toNat = 143 := rfl
      omega
    · have upper : (0xBF : UInt8).toNat = 191 := rfl
      omega

end Next

/-- The bytes of a character are read as that character, whatever follows them. -/
theorem next_encodeChar (scalar : Char) (rest : Bytes) :
    ∃ first behind,
      String.utf8EncodeChar scalar ++ rest = first :: behind ∧
        next first behind = (some scalar, rest) := by
  have same : Char.ofNat scalar.val.toNat = scalar := Char.ofNat_toNat scalar
  have valid : scalar.val.toNat.isValidChar := scalar.valid
  unfold Nat.isValidChar at valid
  unfold String.utf8EncodeChar
  generalize scalar.val.toNat = bits at same valid ⊢
  subst same
  dsimp only
  -- The cases of the writer, by the number of bytes.
  split
  · rename_i one
    exact ⟨_, _, rfl, next_one (Nat.lt_succ_of_le one) rest⟩
  · split
    · exact ⟨_, _, rfl, next_two (by omega) (by omega) rest⟩
    · split
      · exact ⟨_, _, rfl, next_three (by omega) (by omega) (by omega) rest⟩
      · exact ⟨_, _, rfl, next_four (by omega) (by omega) rest⟩

/-! ## Text -/

section Fold

variable {Result : Type}

theorem fold_encodeChar
    (visit : Result → Option Char → Result)
    (result : Result)
    (scalar : Char)
    (rest : Bytes) :
    fold visit result (String.utf8EncodeChar scalar ++ rest) =
      fold visit (visit result (some scalar)) rest := by
  obtain ⟨first, behind, bytes, read⟩ := next_encodeChar scalar rest
  rw [bytes, fold, read]

theorem fold_encode
    (visit : Result → Option Char → Result)
    (result : Result)
    (text : String) :
    fold visit result (encode text) =
      text.toList.foldl (fun result scalar => visit result (some scalar)) result := by
  unfold encode
  generalize text.toList = scalars
  induction scalars generalizing result with
  | nil => rw [List.flatMap_nil, fold, List.foldl_nil]
  | cons scalar scalars ih => rw [List.flatMap_cons, fold_encodeChar, ih, List.foldl_cons]

end Fold

theorem foldl_push (scalars : List Char) (done : String) :
    scalars.foldl String.push done = done ++ String.ofList scalars := by
  induction scalars generalizing done with
  | nil => simp
  | cons scalar scalars ih =>
      apply String.toList_inj.mp
      simp [ih]

theorem decodeLossy_encode (text : String) : decodeLossy (encode text) = text := by
  have pushed := foldl_push text.toList ""
  rw [String.ofList_toList, String.empty_append] at pushed
  rw [decodeLossy, fold_encode]
  exact pushed

/-! ## NUL -/

def ZeroFree (text : String) : Prop := '\x00' ∉ text.toList

instance (text : String) : Decidable (ZeroFree text) := inferInstanceAs (Decidable (_ ∉ _))

theorem zero_mem_map (values : List Nat) (zero : 0 ∈ values.map UInt8.ofNat) :
    ∃ value ∈ values, value % 256 = 0 := by
  obtain ⟨value, member, equal⟩ := List.mem_map.mp zero
  have low := congrArg UInt8.toNat equal
  rw [UInt8.toNat_ofNat'] at low
  exact ⟨value, member, low⟩

theorem eq_of_zero_mem_encodeChar {scalar : Char} (zero : 0 ∈ String.utf8EncodeChar scalar) :
    scalar = '\x00' := by
  have same : Char.ofNat scalar.val.toNat = scalar := Char.ofNat_toNat scalar
  have valid : scalar.val.toNat.isValidChar := scalar.valid
  unfold Nat.isValidChar at valid
  unfold String.utf8EncodeChar at zero
  generalize scalar.val.toNat = bits at same valid zero
  subst same
  dsimp only at zero
  split at zero
  · obtain ⟨value, member, low⟩ := zero_mem_map [_] zero
    have one := List.mem_singleton.mp member
    have none : bits = 0 := by omega
    rw [none]
  -- In the longer forms every byte has its high bit set.
  · exfalso
    split at zero
    · obtain ⟨value, member, low⟩ := zero_mem_map [_, _] zero
      simp only [List.mem_cons, List.not_mem_nil, or_false] at member
      omega
    · split at zero
      · obtain ⟨value, member, low⟩ := zero_mem_map [_, _, _] zero
        simp only [List.mem_cons, List.not_mem_nil, or_false] at member
        omega
      · obtain ⟨value, member, low⟩ := zero_mem_map [_, _, _, _] zero
        simp only [List.mem_cons, List.not_mem_nil, or_false] at member
        omega

theorem ZeroFree.zero_notMem_encode {text : String} (free : ZeroFree text) : 0 ∉ encode text := by
  intro zero
  obtain ⟨scalar, member, within⟩ := List.mem_flatMap.mp zero
  exact free (eq_of_zero_mem_encodeChar within ▸ member)

theorem complete_isSuffix (more bits : Nat) (bytes : Bytes) :
    (complete more bits bytes).2 <:+ bytes := by
  induction more generalizing bits bytes with
  | zero => exact List.suffix_rfl
  | succ more ih =>
      cases bytes with
      | nil => exact List.suffix_rfl
      | cons byte rest =>
          simp only [complete]
          split
          · exact (ih _ _).trans (List.suffix_cons _ _)
          · exact List.suffix_rfl

theorem next_isSuffix (first : UInt8) (rest : Bytes) : (next first rest).2 <:+ rest := by
  unfold next
  split
  · exact List.suffix_rfl
  · split
    · exact List.suffix_rfl
    · exact List.suffix_rfl
    · split
      · exact (complete_isSuffix _ _ _).trans (List.suffix_cons _ _)
      · exact List.suffix_rfl

/-- The bytes that complete a character only add bits below those already read. -/
theorem complete_bounds
    {more bits : Nat}
    {bytes rest : Bytes}
    {scalar : Char}
    (read : complete more bits bytes = (some scalar, rest)) :
    ∃ value,
      scalar = Char.ofNat value ∧
        bits * Nat.pow 64 more ≤ value ∧ value < (bits + 1) * Nat.pow 64 more := by
  induction more generalizing bits bytes with
  | zero =>
      cases read
      have whole : bits < (bits + 1) * 1 := by omega
      exact ⟨bits, rfl, Nat.le_of_eq (Nat.mul_one bits), whole⟩
  | succ more ih =>
      have power : Nat.pow 64 (more + 1) = 64 * Nat.pow 64 more := Nat.mul_comm _ _
      cases bytes with
      | nil => cases read
      | cons byte bytes =>
          simp only [complete] at read
          split at read
          · rename_i continues
            obtain ⟨value, same, lower, upper⟩ := ih read
            have six : bits * 64 ≤ extend bits byte ∧ extend bits byte + 1 ≤ (bits + 1) * 64 := by
              have high : (0xBF : UInt8).toNat = 191 := rfl
              simp only [isContinuation, Bool.and_eq_true, decide_eq_true_eq,
                UInt8.le_iff_toNat_le, high] at continues
              unfold extend
              omega
            refine ⟨value, same, ?_, ?_⟩
            · calc
                bits * Nat.pow 64 (more + 1) = bits * 64 * Nat.pow 64 more := by
                  rw [power, Nat.mul_assoc]
                _ ≤ extend bits byte * Nat.pow 64 more := Nat.mul_le_mul_right _ six.1
                _ ≤ value := lower
            · calc
                value < (extend bits byte + 1) * Nat.pow 64 more := upper
                _ ≤ (bits + 1) * 64 * Nat.pow 64 more := Nat.mul_le_mul_right _ six.2
                _ = (bits + 1) * Nat.pow 64 (more + 1) := by rw [power, Nat.mul_assoc]
          · cases read

def Lead.least (lead : Lead) : Nat :=
  (lead.bits * 64 + (lead.low.toNat - 0x80)) * Nat.pow 64 lead.more

def Lead.beyond (lead : Lead) : Nat :=
  (lead.bits * 64 + (lead.high.toNat - 0x80) + 1) * Nat.pow 64 lead.more

set_option maxRecDepth 2000 in
/-- What a lead begins is beyond ASCII, and it is a character. -/
theorem lead?_bounds : ∀ first < 256, ∀ lead ∈ lead? (UInt8.ofNat first),
    0x80 ≤ lead.least ∧
      (lead.beyond ≤ 0xD800 ∨ 0xE000 ≤ lead.least ∧ lead.beyond ≤ 0x110000) := by
  decide

theorem next_wide
    {first : UInt8}
    {rest : Bytes}
    {scalar : Char}
    (wide : ¬ first < 0x80)
    (read : (next first rest).1 = some scalar) :
    scalar ≠ '\x00' := by
  simp only [next, wide, if_false] at read
  split at read
  · cases read
  · cases read
  · rename_i lead second behind leads
    split at read
    · rename_i inRange
      simp only [Bool.and_eq_true, decide_eq_true_eq, UInt8.le_iff_toNat_le] at inRange
      obtain ⟨value, rfl, lower, upper⟩ := complete_bounds (Prod.ext read rfl)
      have begins : lead ∈ lead? (UInt8.ofNat first.toNat) := by
        rw [UInt8.ofNat_toNat]
        exact leads
      have bounds := lead?_bounds first.toNat first.toNat_lt lead begins
      have least : lead.least ≤ value := by
        refine Nat.le_trans (Nat.mul_le_mul_right _ ?_) lower
        unfold extend
        omega
      have beyond : value < lead.beyond := by
        refine Nat.lt_of_lt_of_le upper (Nat.mul_le_mul_right _ ?_)
        unfold extend
        omega
      have valid : value.isValidChar := by
        unfold Nat.isValidChar
        omega
      intro zero
      have none := congrArg Char.toNat zero
      rw [toNat_ofNat valid] at none
      change value = 0 at none
      omega
    · cases read

theorem eq_zero_of_next {first : UInt8} {rest : Bytes}
    (read : (next first rest).1 = some '\x00') :
    first = 0 := by
  by_cases ascii : first < 0x80
  · simp only [next, ascii, if_true, Option.some.injEq] at read
    have small : first.toNat < 128 := UInt8.lt_iff_toNat_lt.mp ascii
    have valid : first.toNat.isValidChar := by
      unfold Nat.isValidChar
      omega
    have none := congrArg Char.toNat read
    rw [toNat_ofNat valid] at none
    exact UInt8.toNat_inj.mp none
  · exact absurd rfl (next_wide ascii read)

theorem ZeroFree.push {text : String} {scalar : Char}
    (free : ZeroFree text)
    (other : scalar ≠ '\x00') :
    ZeroFree (text.push scalar) := by
  unfold ZeroFree
  rw [String.toList_push, List.mem_append, List.mem_singleton]
  rintro (before | last)
  · exact free before
  · exact other last.symm

theorem zeroFree_fold {text : String} {bytes : Bytes}
    (free : ZeroFree text)
    (noZero : 0 ∉ bytes) :
    ZeroFree (fold (fun text scalar => text.push (scalar.getD replacement)) text bytes) := by
  fun_induction fold (fun (text : String) scalar => text.push (scalar.getD replacement)) text bytes
    with
  | case1 text => exact free
  | case2 text first rest ih =>
      have other : (next first rest).1.getD replacement ≠ '\x00' := by
        cases read : (next first rest).1 with
        | none => decide
        | some scalar =>
            rintro rfl
            apply noZero
            rw [eq_zero_of_next read]
            exact List.mem_cons_self
      apply ih (free.push other)
      intro zero
      exact noZero (List.mem_cons_of_mem _ ((next_isSuffix first rest).subset zero))

theorem zeroFree_decodeLossy {bytes : Bytes} (noZero : 0 ∉ bytes) :
    ZeroFree (decodeLossy bytes) :=
  zeroFree_fold List.not_mem_nil noZero

end SqlGate.Utf8
