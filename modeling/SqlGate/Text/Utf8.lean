import SqlGate.Bytes

/-!
# UTF-8

Text is written as UTF-8. `decodeLossy` reads any bytes: a maximal run that
begins a character but does not complete it becomes one U+FFFD, and so does
every byte that begins none. `decode?` refuses such bytes instead.
-/

namespace SqlGate.Utf8

set_option autoImplicit false

def encode (text : String) : Bytes :=
  text.toList.flatMap String.utf8EncodeChar

/-- Stands in for bytes that are no character. -/
def replacement : Char := '\uFFFD'

/-- The shape of an encoded character, told by its first byte: the bits that
byte contributes, the range of the second byte, and how many more follow. -/
structure Lead where
  bits : Nat
  low : UInt8
  high : UInt8
  more : Nat

/-- The second byte's range rules out overlong forms, surrogates and values
past U+10FFFF. -/
def lead? (byte : UInt8) : Option Lead :=
  if 0xC2 ≤ byte && byte ≤ 0xDF then some ⟨byte.toNat - 0xC0, 0x80, 0xBF, 0⟩
  else if byte = 0xE0 then some ⟨0, 0xA0, 0xBF, 1⟩
  else if byte = 0xED then some ⟨0xD, 0x80, 0x9F, 1⟩
  else if 0xE1 ≤ byte && byte ≤ 0xEF then some ⟨byte.toNat - 0xE0, 0x80, 0xBF, 1⟩
  else if byte = 0xF0 then some ⟨0, 0x90, 0xBF, 2⟩
  else if 0xF1 ≤ byte && byte ≤ 0xF3 then some ⟨byte.toNat - 0xF0, 0x80, 0xBF, 2⟩
  else if byte = 0xF4 then some ⟨4, 0x80, 0x8F, 2⟩
  else none

def isContinuation (byte : UInt8) : Bool := 0x80 ≤ byte && byte ≤ 0xBF

def extend (bits : Nat) (byte : UInt8) : Nat := bits * 64 + (byte.toNat - 0x80)

/-- Continuation bytes that complete a character: the character, or nothing
where the run breaks off, and the bytes after it. -/
def complete : (more bits : Nat) → Bytes → Option Char × Bytes
  | 0, bits, rest => (some (Char.ofNat bits), rest)
  | _ + 1, _, [] => (none, [])
  | more + 1, bits, byte :: rest =>
      if isContinuation byte then complete more (extend bits byte) rest
      else (none, byte :: rest)

theorem length_complete_le (more bits : Nat) (bytes : Bytes) :
    (complete more bits bytes).2.length ≤ bytes.length := by
  induction more generalizing bits bytes with
  | zero => simp [complete]
  | succ more ih =>
      cases bytes with
      | nil => simp [complete]
      | cons byte rest =>
          simp only [complete]
          split
          · exact Nat.le_trans (ih _ _) (Nat.le_succ _)
          · exact Nat.le_refl _

def next (first : UInt8) (rest : Bytes) : Option Char × Bytes :=
  if first < 0x80 then (some (Char.ofNat first.toNat), rest)
  else
    match lead? first, rest with
    | none, _ => (none, rest)
    | some _, [] => (none, [])
    | some lead, second :: tail =>
        if lead.low ≤ second && second ≤ lead.high then
          complete lead.more (extend lead.bits second) tail
        else (none, second :: tail)

theorem length_next_le (first : UInt8) (rest : Bytes) :
    (next first rest).2.length ≤ rest.length := by
  simp only [next]
  split
  · exact Nat.le_refl _
  · split
    · exact Nat.le_refl _
    · exact Nat.le_refl _
    · split
      · exact Nat.le_trans (length_complete_le _ _ _) (Nat.le_succ _)
      · exact Nat.le_refl _

/-- An ill-formed run counts as `none`. -/
def fold {Result : Type} (visit : Result → Option Char → Result) (result : Result) :
    Bytes → Result
  | [] => result
  | first :: rest =>
      fold visit (visit result (next first rest).1) (next first rest).2
termination_by bytes => bytes.length
decreasing_by exact Nat.lt_succ_of_le (length_next_le first rest)

def decodeLossy (bytes : Bytes) : String :=
  fold (fun text scalar => text.push (scalar.getD replacement)) "" bytes

def decode? (bytes : Bytes) : Option String :=
  fold (fun text scalar => do return (← text).push (← scalar)) (some "") bytes

end SqlGate.Utf8
