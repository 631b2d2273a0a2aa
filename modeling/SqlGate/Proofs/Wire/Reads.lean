import SqlGate.Proofs.Wire.Failing
import SqlGate.Proofs.Wire.Numbers

/-!
# How a read ends

A `Read` is one of the reads that a packet offers, and `reader` is how it is done. `Yields` says
which bytes a read takes for a value, and `Fails` which bytes it has taken when it gives up.
A read ends in one of these two ways.
-/

namespace SqlGate

set_option autoImplicit false

inductive Read : Type → Type where
  | int1 : Read UInt8
  | int2 : Read UInt16
  | int3 : Read UInt32
  | int4 : Read UInt32
  | int8 : Read UInt64
  | lengthEncoded : Read UInt64
  | skip (count : UInt64) : Read Unit
  | fixed (count : UInt64) : Read Bytes
  | lengthPrefixed : Read Bytes
  | untilZero : Read Bytes
  | textUntilZero : Read String
  | toEnd : Read Bytes
  | textToEnd : Read String

namespace Read

variable {α : Type}

def reader : {α : Type} → Read α → Reader α
  | _, int1 => Reader.int1
  | _, int2 => Reader.int2
  | _, int3 => Reader.int3
  | _, int4 => Reader.int4
  | _, int8 => Reader.int8
  | _, lengthEncoded => Reader.lengthEncoded
  | _, skip count => Reader.skip count.toNat
  | _, fixed count => Reader.fixed count.toNat
  | _, lengthPrefixed => Reader.lengthPrefixed
  | _, untilZero => Reader.untilZero
  | _, textUntilZero => Reader.textUntilZero
  | _, toEnd => Reader.toEnd
  | _, textToEnd => Reader.textToEnd

def sized? : {α : Type} → Read α → Option (FieldKind × Nat)
  | _, int1 => some (.integer 1, 1)
  | _, int2 => some (.integer 2, 2)
  | _, int3 => some (.integer 3, 3)
  | _, int4 => some (.integer 4, 4)
  | _, int8 => some (.integer 8, 8)
  | _, skip count => some (.reserved, count.toNat)
  | _, fixed count => some (.fixedText, count.toNat)
  | _, _ => none

def StartsWithNumber : {α : Type} → Read α → Prop
  | _, lengthEncoded => True
  | _, lengthPrefixed => True
  | _, _ => False

inductive Yields : {α : Type} → Read α → (taken left : Bytes) → α → Prop where
  | int1 (value : UInt8) (left : Bytes) : Yields .int1 [value] left value
  | int2 (value : UInt16) (left : Bytes) : Yields .int2 (Bytes.ofUInt16 value) left value
  | int3 (value : UInt32) (left : Bytes) (fits : value.toNat < 16777216) :
      Yields .int3 (Bytes.ofNatLE 3 value.toNat) left value
  | int4 (value : UInt32) (left : Bytes) : Yields .int4 (Bytes.ofUInt32 value) left value
  | int8 (value : UInt64) (left : Bytes) : Yields .int8 (Bytes.ofUInt64 value) left value
  | lengthEncoded {form : Bytes} {value : UInt64} (left : Bytes) (reads : Field.Form form value) :
      Yields .lengthEncoded form left value
  | skip {count : UInt64} {bytes : Bytes} (left : Bytes) (whole : bytes.length = count.toNat) :
      Yields (.skip count) bytes left ()
  | fixed {count : UInt64} {bytes : Bytes} (left : Bytes) (whole : bytes.length = count.toNat) :
      Yields (.fixed count) bytes left bytes
  | lengthPrefixed {form bytes : Bytes} {count : UInt64} (left : Bytes)
      (reads : Field.Form form count) (whole : bytes.length = count.toNat) :
      Yields .lengthPrefixed (form ++ bytes) left bytes
  | untilZero {bytes : Bytes} (left : Bytes) (noZero : 0 ∉ bytes) :
      Yields .untilZero (Field.zeroTerminated bytes) left bytes
  | textUntilZero {bytes : Bytes} (left : Bytes) (noZero : 0 ∉ bytes)
      (free : Utf8.ZeroFree (Utf8.decodeLossy bytes)) :
      Yields .textUntilZero (Field.zeroTerminated bytes) left (Utf8.decodeLossy bytes)
  | toEnd (bytes : Bytes) : Yields .toEnd bytes [] bytes
  | textToEnd (bytes : Bytes) : Yields .textToEnd bytes [] (Utf8.decodeLossy bytes)

/-- The problem that a read meets, the bytes that it took before and those that it left. -/
inductive Fails : {α : Type} → Read α → (taken left : Bytes) → WireError → Prop where
  | short {α : Type} {read : Read α} {field : FieldKind} {count : Nat} {left : Bytes}
      (size : read.sized? = some (field, count)) (few : left.length < count) :
      Fails read [] left (.short field count left.length)
  | noNumber : Fails .lengthEncoded [] [] (.short (.integer 1) 1 0)
  | reserved (left : Bytes) : Fails .lengthEncoded [0xFF] left .reservedMarker
  | fewDigits {marker : UInt8} {left : Bytes} (few : left.length < Field.announced marker) :
      Fails .lengthEncoded [marker] left
        (.short (.integer (Field.announced marker)) (Field.announced marker) left.length)
  | noLength {taken left : Bytes} {problem : WireError}
      (fails : Fails .lengthEncoded taken left problem) :
      Fails .lengthPrefixed taken left problem
  | fewBytes {form left : Bytes} {count : UInt64}
      (reads : Field.Form form count) (few : left.length < count.toNat) :
      Fails .lengthPrefixed form left (.short .fixedText count.toNat left.length)
  | unterminated {left : Bytes} (noZero : 0 ∉ left) : Fails .untilZero [] left .unterminated
  | textUnterminated {left : Bytes} (noZero : 0 ∉ left) :
      Fails .textUntilZero [] left .unterminated

/-! ## Values -/

theorem reader_of_yields
    {read : Read α}
    {taken left : Bytes}
    {value : α}
    (yields : read.Yields taken left value)
    (position : Nat) :
    read.reader ⟨position, taken ++ left⟩ = .ok value ⟨position + taken.length, left⟩ := by
  cases yields with
  | int1 => exact Reader.int1_takes _ position left
  | int2 => exact Reader.int2_takes _ position left
  | int3 _ _ fits =>
      have read := Reader.int3_takes fits position left
      rwa [UInt32.ofNat_toNat] at read
  | int4 => exact Reader.int4_takes _ position left
  | int8 => exact Reader.int8_takes _ position left
  | lengthEncoded _ reads => exact Reader.takes_form reads position left
  | skip _ whole =>
      have read := Reader.skip_takes taken position left
      rwa [whole] at read ⊢
  | fixed _ whole =>
      have read := Reader.fixed_takes taken position left
      rwa [whole] at read ⊢
  | lengthPrefixed _ reads whole =>
      rename_i form bytes count
      have behind : (Reader.fixed count.toNat).Takes bytes bytes := whole ▸ Reader.fixed_takes bytes
      exact (Reader.takes_form reads).bind behind position left
  | untilZero _ noZero => exact Reader.untilZero_takes noZero position left
  | textUntilZero _ noZero _ => exact Reader.textUntilZero_takes_bytes noZero position left
  | toEnd => rw [List.append_nil]; rfl
  | textToEnd => rw [List.append_nil]; rfl

section Integers

variable {digits : Bytes}

theorem ofNatLE_digits {width : Nat} (whole : digits.length = width) :
    Bytes.ofNatLE width (Bytes.toNatLE digits) = digits :=
  whole ▸ Bytes.ofNatLE_toNatLE digits

theorem toNatLE_digits_lt {width : Nat} (whole : digits.length = width) :
    Bytes.toNatLE digits < Nat.pow 256 width :=
  whole ▸ Bytes.toNatLE_lt digits

theorem integer_ensures
    {read : Read α}
    {width : Nat}
    {narrow : Nat → α}
    (yields : ∀ digits left, digits.length = width →
      read.Yields digits left (narrow (Bytes.toNatLE digits)))
    (cursor : Cursor) :
    (do return narrow (← Reader.integer width) : Reader α).Ensures cursor fun value left =>
      ∃ taken, taken ++ left.rest = cursor.rest ∧ read.Yields taken left.rest value := by
  apply Reader.Ensures.bind
  refine (Reader.integer_ensures width cursor).mono ?_
  rintro _ left ⟨digits, whole, split, rfl⟩
  exact .pure ⟨digits, split, yields digits left.rest whole⟩

end Integers

theorem reader_ensures (read : Read α) (cursor : Cursor) :
    read.reader.Ensures cursor fun value left =>
      ∃ taken, taken ++ left.rest = cursor.rest ∧ read.Yields taken left.rest value := by
  cases read with
  | int1 =>
      refine (Reader.int1_ensures cursor).mono ?_
      intro value left split
      exact ⟨[value], split, .int1 value left.rest⟩
  | int2 =>
      refine integer_ensures ?_ cursor
      intro digits left whole
      have yields := Yields.int2 (UInt16.ofNat (Bytes.toNatLE digits)) left
      rwa [Bytes.ofUInt16, UInt16.toNat_ofNat', Nat.mod_eq_of_lt (toNatLE_digits_lt whole),
        ofNatLE_digits whole] at yields
  | int3 =>
      refine integer_ensures ?_ cursor
      intro digits left whole
      have fits := toNatLE_digits_lt whole
      have same : (UInt32.ofNat (Bytes.toNatLE digits)).toNat = Bytes.toNatLE digits := by
        rw [UInt32.toNat_ofNat']
        exact Nat.mod_eq_of_lt (Nat.lt_trans fits (by decide))
      have yields := Yields.int3 (UInt32.ofNat (Bytes.toNatLE digits)) left (by rwa [same])
      rwa [same, ofNatLE_digits whole] at yields
  | int4 =>
      refine integer_ensures ?_ cursor
      intro digits left whole
      have yields := Yields.int4 (UInt32.ofNat (Bytes.toNatLE digits)) left
      rwa [Bytes.ofUInt32, UInt32.toNat_ofNat', Nat.mod_eq_of_lt (toNatLE_digits_lt whole),
        ofNatLE_digits whole] at yields
  | int8 =>
      refine integer_ensures ?_ cursor
      intro digits left whole
      have yields := Yields.int8 (UInt64.ofNat (Bytes.toNatLE digits)) left
      rwa [Bytes.ofUInt64, UInt64.toNat_ofNat', Nat.mod_eq_of_lt (toNatLE_digits_lt whole),
        ofNatLE_digits whole] at yields
  | lengthEncoded =>
      refine (Reader.lengthEncoded_ensures cursor).mono ?_
      rintro value left ⟨form, reads, split⟩
      exact ⟨form, split, .lengthEncoded left.rest reads⟩
  | skip count =>
      apply Reader.Ensures.bind
      refine (Reader.take_ensures count.toNat .reserved cursor).mono ?_
      rintro bytes left ⟨whole, split⟩
      exact .pure ⟨bytes, split, .skip left.rest whole⟩
  | fixed count =>
      refine (Reader.take_ensures count.toNat .fixedText cursor).mono ?_
      rintro bytes left ⟨whole, split⟩
      exact ⟨bytes, split, .fixed left.rest whole⟩
  | lengthPrefixed =>
      apply Reader.Ensures.bind
      refine (Reader.lengthEncoded_ensures cursor).mono ?_
      rintro count counted ⟨form, reads, split⟩
      refine (Reader.take_ensures count.toNat .fixedText counted).mono ?_
      rintro bytes left ⟨whole, behind⟩
      refine ⟨form ++ bytes, ?_, .lengthPrefixed left.rest reads whole⟩
      rw [List.append_assoc, behind, split]
  | untilZero =>
      refine (Reader.untilZero_ensures cursor).mono ?_
      rintro bytes left ⟨noZero, split⟩
      refine ⟨Field.zeroTerminated bytes, ?_, .untilZero left.rest noZero⟩
      rw [Field.zeroTerminated, List.append_assoc]
      exact split
  | textUntilZero =>
      apply Reader.Ensures.bind
      refine (Reader.untilZero_ensures cursor).mono ?_
      rintro bytes left ⟨noZero, split⟩
      have free := Utf8.zeroFree_decodeLossy noZero
      refine .pure ⟨Field.zeroTerminated bytes, ?_, .textUntilZero left.rest noZero free⟩
      rw [Field.zeroTerminated, List.append_assoc]
      exact split
  | toEnd =>
      intro bytes left read
      cases read
      exact ⟨cursor.rest, List.append_nil _, .toEnd cursor.rest⟩
  | textToEnd =>
      intro text left read
      cases read
      exact ⟨cursor.rest, List.append_nil _, .textToEnd cursor.rest⟩

/-- A read succeeds just where it finds the bytes of a value, and moves behind them. -/
theorem reader_eq_ok {read : Read α} {cursor left : Cursor} {value : α} :
    read.reader cursor = .ok value left ↔
      ∃ taken,
        cursor.rest = taken ++ left.rest ∧
          left.position = cursor.position + taken.length ∧
          read.Yields taken left.rest value := by
  obtain ⟨position, bytes⟩ := cursor
  constructor
  · intro succeeded
    obtain ⟨taken, split, yields⟩ := reader_ensures read _ value left succeeded
    change taken ++ left.rest = bytes at split
    subst split
    rw [reader_of_yields yields] at succeeded
    injection succeeded with _ place
    exact ⟨taken, rfl, by rw [← place], yields⟩
  · rintro ⟨taken, split, place, yields⟩
    change bytes = taken ++ left.rest at split
    subst split
    rw [reader_of_yields yields, ← place]

/-! ## Problems -/

/-- All reads of a known size differ only in what they make of their bytes. -/
theorem reader_of_sized
    {read : Read α}
    {field : FieldKind}
    {count : Nat}
    (size : read.sized? = some (field, count)) :
    ∃ change : Bytes → α,
      read.reader = (Reader.take count field >>= fun bytes => pure (change bytes)) := by
  cases read with
  | int1 => cases size; exact ⟨_, bind_assoc _ _ _⟩
  | int2 => cases size; exact ⟨_, bind_assoc _ _ _⟩
  | int3 => cases size; exact ⟨_, bind_assoc _ _ _⟩
  | int4 => cases size; exact ⟨_, bind_assoc _ _ _⟩
  | int8 => cases size; exact ⟨_, bind_assoc _ _ _⟩
  | skip => cases size; exact ⟨_, rfl⟩
  | fixed => cases size; exact ⟨id, (bind_pure _).symm⟩
  | _ => cases size

theorem sized_failsAs
    {read : Read α}
    {field : FieldKind}
    {count : Nat}
    (size : read.sized? = some (field, count))
    (cursor : Cursor) :
    read.reader.FailsAs cursor fun problem left =>
      left = cursor ∧
        cursor.rest.length < count ∧
        problem = .short field count cursor.rest.length := by
  obtain ⟨change, same⟩ := reader_of_sized size
  rw [same]
  exact (Reader.take_failsAs count field cursor).map change

theorem lengthEncoded_failsAs (cursor : Cursor) :
    Reader.lengthEncoded.FailsAs cursor fun problem left =>
      ∃ taken,
        taken ++ left.rest = cursor.rest ∧ Read.lengthEncoded.Fails taken left.rest problem := by
  rw [Reader.lengthEncoded_eq]
  apply Reader.FailsAs.bind
  · have size : Read.int1.sized? = some (.integer 1, 1) := rfl
    refine (sized_failsAs size cursor).mono ?_
    rintro _ _ ⟨rfl, few, rfl⟩
    have none := List.length_eq_zero_iff.mp (Nat.lt_one_iff.mp few)
    refine ⟨[], rfl, ?_⟩
    rw [none]
    exact .noNumber
  · refine (Reader.int1_ensures cursor).mono ?_
    intro marker behind split
    split
    · exact .pure _
    · split
      · rename_i reserved
        subst reserved
        exact .throw ⟨[0xFF], split, .reserved behind.rest⟩
      · refine ((Reader.take_failsAs _ _ behind).map _).map _ |>.mono ?_
        rintro _ _ ⟨rfl, few, rfl⟩
        exact ⟨[marker], split, .fewDigits few⟩

theorem reader_failsAs (read : Read α) (cursor : Cursor) :
    read.reader.FailsAs cursor fun problem left =>
      ∃ taken, taken ++ left.rest = cursor.rest ∧ read.Fails taken left.rest problem := by
  cases size : read.sized? with
  | some known =>
      refine (sized_failsAs size cursor).mono ?_
      rintro _ _ ⟨rfl, few, rfl⟩
      exact ⟨[], rfl, .short size few⟩
  | none =>
      cases read with
      | lengthEncoded => exact lengthEncoded_failsAs cursor
      | lengthPrefixed =>
          apply Reader.FailsAs.bind
          · refine (lengthEncoded_failsAs cursor).mono ?_
            rintro problem left ⟨taken, split, fails⟩
            exact ⟨taken, split, .noLength fails⟩
          · refine (Reader.lengthEncoded_ensures cursor).mono ?_
            rintro count counted ⟨form, reads, split⟩
            refine (Reader.take_failsAs count.toNat .fixedText counted).mono ?_
            rintro _ _ ⟨rfl, few, rfl⟩
            exact ⟨form, split, .fewBytes reads few⟩
      | untilZero =>
          refine (Reader.untilZero_failsAs cursor).mono ?_
          rintro _ _ ⟨rfl, noZero, rfl⟩
          exact ⟨[], rfl, .unterminated noZero⟩
      | textUntilZero =>
          refine ((Reader.untilZero_failsAs cursor).map _).mono ?_
          rintro _ _ ⟨rfl, noZero, rfl⟩
          exact ⟨[], rfl, .textUnterminated noZero⟩
      | toEnd => exact nofun
      | textToEnd => exact nofun
      | _ => cases size

theorem lengthEncoded_of_fewDigits {marker : UInt8} {left : Bytes}
    (few : left.length < Field.announced marker)
    (position : Nat) :
    Reader.lengthEncoded ⟨position, marker :: left⟩ =
      .error (.short (.integer (Field.announced marker)) (Field.announced marker) left.length)
        ⟨position + 1, left⟩ := by
  -- No other byte announces any bytes of which too few could be there.
  have marked : ¬ marker < 251 := by
    intro unmarked
    rw [Field.announced_unmarked unmarked] at few
    exact Nat.not_lt_zero _ few
  have unreserved : marker ≠ 0xFF := by
    rintro rfl
    exact Nat.not_lt_zero _ few
  rw [Reader.lengthEncoded_eq]
  refine (Reader.bind_eq_of_ok (Reader.int1_takes marker position left)).trans ?_
  rw [if_neg marked, if_neg unreserved]
  exact Reader.bind_eq_of_error (Reader.bind_eq_of_error (Reader.take_of_few few _ _))

theorem reader_of_fails
    {read : Read α}
    {taken left : Bytes}
    {problem : WireError}
    (fails : read.Fails taken left problem)
    (position : Nat) :
    read.reader ⟨position, taken ++ left⟩ = .error problem ⟨position + taken.length, left⟩ := by
  induction fails with
  | short size few =>
      obtain ⟨change, same⟩ := reader_of_sized size
      rw [same]
      exact Reader.bind_eq_of_error (Reader.take_of_few few _ position)
  | noNumber => rfl
  | reserved left => exact Reader.bind_eq_of_ok (Reader.int1_takes 0xFF position left)
  | fewDigits few => exact lengthEncoded_of_fewDigits few position
  | noLength fails ih => exact Reader.bind_eq_of_error ih
  | fewBytes reads few =>
      refine (Reader.bind_eq_of_ok (Reader.takes_form reads position _)).trans ?_
      exact Reader.take_of_few few .fixedText _
  | unterminated noZero => exact Reader.untilZero_of_noZero noZero position
  | textUnterminated noZero =>
      exact Reader.bind_eq_of_error (Reader.untilZero_of_noZero noZero position)

/-- A read fails just where one of its problems is found, and stays behind what it had taken. -/
theorem reader_eq_error {read : Read α} {cursor left : Cursor} {problem : WireError} :
    read.reader cursor = .error problem left ↔
      ∃ taken,
        cursor.rest = taken ++ left.rest ∧
          left.position = cursor.position + taken.length ∧
          read.Fails taken left.rest problem := by
  obtain ⟨position, bytes⟩ := cursor
  constructor
  · intro failed
    obtain ⟨taken, split, fails⟩ := reader_failsAs read _ problem left failed
    change taken ++ left.rest = bytes at split
    subst split
    rw [reader_of_fails fails] at failed
    injection failed with _ place
    exact ⟨taken, rfl, by rw [← place], fails⟩
  · rintro ⟨taken, split, place, fails⟩
    change bytes = taken ++ left.rest at split
    subst split
    rw [reader_of_fails fails, ← place]

/-- Only a read that starts with a number takes anything before it fails, and then at least the
first byte of that number. -/
theorem Fails.taken_eq_nil_iff
    {read : Read α}
    {taken left : Bytes}
    {problem : WireError}
    (fails : read.Fails taken left problem) :
    taken = [] ↔ ¬ read.StartsWithNumber ∨ taken ++ left = [] := by
  induction fails with
  | @short _ read _ _ _ size _ =>
      refine iff_of_true rfl (.inl ?_)
      cases read with
      | lengthEncoded => cases size
      | lengthPrefixed => cases size
      | _ => exact id
  | noNumber => exact iff_of_true rfl (.inr rfl)
  | reserved left => simp [StartsWithNumber]
  | fewDigits few => simp [StartsWithNumber]
  | noLength fails ih => exact ih
  | fewBytes reads few =>
      cases reads with
      | byte first unmarked => simp [StartsWithNumber]
      | marked first digits marker unreserved whole => simp [StartsWithNumber]
  | unterminated noZero => exact iff_of_true rfl (.inl id)
  | textUnterminated noZero => exact iff_of_true rfl (.inl id)

end Read

/-- What a read has taken when it fails is told by its problem. It stays where it was, so that
another read can be tried, unless a number comes first and any byte was there for it. Then the
marker of the number is lost, and with a length that is followed by too few bytes all of it. -/
theorem failed_reads_lose_only_their_number
    {α : Type}
    (read : Read α)
    (cursor left : Cursor)
    (problem : WireError) :
    (read.reader cursor = .error problem left ↔
      ∃ taken,
        cursor.rest = taken ++ left.rest ∧
          left.position = cursor.position + taken.length ∧
          read.Fails taken left.rest problem) ∧
    (read.reader cursor = .error problem left →
      (left = cursor ↔ ¬ read.StartsWithNumber ∨ cursor.rest = [])) := by
  refine ⟨Read.reader_eq_error, ?_⟩
  intro failed
  obtain ⟨taken, split, place, fails⟩ := Read.reader_eq_error.mp failed
  rw [split, ← fails.taken_eq_nil_iff]
  constructor
  · intro same
    rw [same] at place
    exact List.length_eq_zero_iff.mp (Nat.left_eq_add.mp place)
  · intro none
    rw [none, List.nil_append] at split
    rw [none, List.length_nil, Nat.add_zero] at place
    calc left = ⟨left.position, left.rest⟩ := rfl
      _ = ⟨cursor.position, cursor.rest⟩ := by rw [place, split]
      _ = cursor := rfl

/-- A text of five bytes of which one is there loses its length. What is tried next loses
nothing. -/
theorem length_of_missing_text_is_lost :
    Read.lengthPrefixed.reader ⟨0, [0xFC, 5, 0, 7]⟩ =
        .error (.short .fixedText 5 1) ⟨3, [7]⟩ ∧
      (⟨3, [7]⟩ : Cursor) ≠ ⟨0, [0xFC, 5, 0, 7]⟩ ∧
      Read.int4.reader ⟨3, [7]⟩ = .error (.short (.integer 4) 4 1) ⟨3, [7]⟩ := by
  have text : Read.lengthPrefixed.reader ⟨0, [0xFC, 5, 0, 7]⟩ =
      .error (.short .fixedText 5 1) ⟨3, [7]⟩ := by
    rfl
  have lost := (failed_reads_lose_only_their_number _ _ _ _).2 text
  have few : Read.int4.Fails [] [7] (.short (.integer 4) 4 1) := .short rfl (by decide)
  refine ⟨text, ?_, (failed_reads_lose_only_their_number _ _ _ _).1.mpr ⟨[], rfl, rfl, few⟩⟩
  intro same
  rcases lost.mp same with unnumbered | empty
  · exact unnumbered trivial
  · cases empty

/-- A number that is cut off behind its marker fails, and the next read begins behind the marker.
So not every failed read leaves its place as it was. -/
theorem marker_of_truncated_number_is_lost :
    Read.lengthEncoded.reader (Cursor.ofPayload [0xFC, 1]) =
        .error (.short (.integer 2) 2 1) ⟨1, [1]⟩ ∧
      Read.int1.reader ⟨1, [1]⟩ = .ok 1 ⟨2, []⟩ ∧
      ¬ ∀ (α : Type) (read : Read α) (cursor left : Cursor) (problem : WireError),
        read.reader cursor = .error problem left → left.position = cursor.position := by
  have number : Read.lengthEncoded.reader (Cursor.ofPayload [0xFC, 1]) =
      .error (.short (.integer 2) 2 1) ⟨1, [1]⟩ := by
    rfl
  refine ⟨number, rfl, ?_⟩
  intro stays
  cases stays _ _ _ _ _ number

end SqlGate
