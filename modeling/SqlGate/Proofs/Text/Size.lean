import SqlGate.Text.Template
import SqlGate.Text.Utf8

/-!
# How many bytes a text takes

Text that is read from bytes and written again can grow: a byte that begins no
character becomes a character of three bytes. It never grows beyond that. A
filled template takes the bytes of its words and of the values in its slots.
-/

namespace SqlGate

set_option autoImplicit false

namespace Utf8

theorem length_encode (text : String) : (encode text).length = text.utf8ByteSize := by
  have whole := congrArg ByteArray.size (String.utf8Encode_toList (b := text))
  simpa [List.utf8Encode, encode] using whole

theorem utf8Size_replacement : replacement.utf8Size = 3 := by
  decide

theorem utf8Size_ascii {byte : UInt8} (ascii : byte < 0x80) :
    (Char.ofNat byte.toNat).utf8Size = 1 := by
  have small : byte.toNat < 0x80 := ascii
  have valid : byte.toNat.isValidChar := Or.inl (by omega)
  have value : (Char.ofNat byte.toNat).val.toNat = byte.toNat := by
    rw [Char.ofNat, dif_pos valid]
    rfl
  rw [Char.utf8Size_eq_one_iff, UInt32.le_iff_toNat_le, value]
  exact Nat.le_of_lt_succ small

theorem length_next_lt
    {first : UInt8}
    {rest : Bytes}
    {scalar : Char}
    (wide : ¬ first < 0x80)
    (read : (next first rest).1 = some scalar) :
    (next first rest).2.length < rest.length := by
  simp only [next, wide, if_false] at read ⊢
  cases leads : lead? first with
  | none => simp [leads] at read
  | some lead =>
      cases rest with
      | nil => simp [leads] at read
      | cons second tail =>
          by_cases inRange : (lead.low ≤ second && second ≤ lead.high) = true
          · have behind := length_complete_le lead.more (extend lead.bits second) tail
            simp only [inRange, if_true, List.length_cons]
            omega
          · simp only [leads, inRange] at read
            cases read

/-- A step of reading yields at most three bytes of text for each byte that it
consumes. -/
theorem utf8Size_next_le (first : UInt8) (rest : Bytes) :
    ((next first rest).1.getD replacement).utf8Size + 3 * (next first rest).2.length ≤
      3 * (rest.length + 1) := by
  have consumed := length_next_le first rest
  cases read : (next first rest).1 with
  | none =>
      rw [Option.getD_none, utf8Size_replacement]
      omega
  | some scalar =>
      rw [Option.getD_some]
      by_cases ascii : first < 0x80
      · have same : Char.ofNat first.toNat = scalar := by
          simpa [next, ascii] using read
        have one := utf8Size_ascii ascii
        rw [same] at one
        omega
      · have four := scalar.utf8Size_le_four
        have two := length_next_lt ascii read
        omega

theorem utf8ByteSize_fold_le (text : String) (bytes : Bytes) :
    (fold (fun text scalar => text.push (scalar.getD replacement)) text bytes).utf8ByteSize ≤
      text.utf8ByteSize + 3 * bytes.length := by
  fun_induction fold (fun (text : String) scalar => text.push (scalar.getD replacement)) text bytes
    with
  | case1 text => simp
  | case2 text first rest ih =>
      have step := utf8Size_next_le first rest
      rw [String.utf8ByteSize_push] at ih
      rw [List.length_cons]
      omega

theorem utf8ByteSize_decodeLossy_le (bytes : Bytes) :
    (decodeLossy bytes).utf8ByteSize ≤ 3 * bytes.length := by
  have bound := utf8ByteSize_fold_le "" bytes
  simpa [decodeLossy] using bound

/-- Bytes that begin no character reach the bound. -/
theorem utf8ByteSize_decodeLossy_replicate (count : Nat) :
    (decodeLossy (List.replicate count 0xFF)).utf8ByteSize = 3 * count := by
  suffices grows : ∀ text : String,
      (fold (fun text scalar => text.push (scalar.getD replacement)) text
        (List.replicate count 0xFF)).utf8ByteSize = text.utf8ByteSize + 3 * count by
    have whole := grows ""
    simpa [decodeLossy] using whole
  induction count with
  | zero =>
      intro text
      simp [fold]
  | succ count ih =>
      intro text
      have refused : next 0xFF (List.replicate count 0xFF) =
          (none, List.replicate count 0xFF) := rfl
      rw [List.replicate_succ, fold, refused, ih, String.utf8ByteSize_push, Option.getD_none,
        utf8Size_replacement]
      omega

end Utf8

namespace Template

def wordsSize : Template → Nat
  | [] => 0
  | .text words :: rest => words.utf8ByteSize + wordsSize rest
  | .slot :: rest => wordsSize rest

def slots : Template → Nat
  | [] => 0
  | .text _ :: rest => slots rest
  | .slot :: rest => slots rest + 1

def valuesSize : List String → Nat
  | [] => 0
  | value :: rest => value.utf8ByteSize + valuesSize rest

@[simp] theorem valuesSize_nil : valuesSize [] = 0 := rfl

@[simp] theorem valuesSize_cons (value : String) (values : List String) :
    valuesSize (value :: values) = value.utf8ByteSize + valuesSize values := rfl

theorem utf8ByteSize_fill (template : Template) (values : List String) :
    (template.fill values).utf8ByteSize =
      template.wordsSize + valuesSize (values.take template.slots) := by
  induction template generalizing values with
  | nil => simp [fill, wordsSize, slots]
  | cons part rest ih =>
      cases part with
      | text words =>
          simp only [fill, wordsSize, slots, String.utf8ByteSize_append, ih]
          omega
      | slot =>
          cases values with
          | nil => simp [fill, wordsSize, ih]
          | cons value values =>
              simp only [fill, wordsSize, slots, List.take_succ_cons, valuesSize_cons,
                String.utf8ByteSize_append, ih]
              omega

end Template

end SqlGate
