import SqlGate.Proofs.Text.Utf8
import SqlGate.Wire.Cursor
import SqlGate.Wire.Field

/-!
# Fields that are read back

Each reader takes what the writer of its field wrote. `Takes` states this of a reader that
stops behind its bytes, whatever follows them, and `Gives` of one that sees the end of the
packet. Both follow a reader step by step along the bytes.
-/

namespace SqlGate.Reader

set_option autoImplicit false

variable {α β : Type}

/-- The reader takes just these bytes for this value, whatever follows them. -/
def Takes (reader : Reader α) (bytes : Bytes) (value : α) : Prop :=
  ∀ position rest,
    reader ⟨position, bytes ++ rest⟩ = .ok value ⟨position + bytes.length, rest⟩

/-- The reader gives this value where these bytes are all that is left, and may leave some of
them. -/
def Gives (reader : Reader α) (bytes : Bytes) (value : α) : Prop :=
  ∀ position, ∃ left, reader ⟨position, bytes⟩ = .ok value left

section Steps

variable {first : Reader α}
variable {next : α → Reader β}
variable {value : α}
variable {result : β}
variable {bytes rest : Bytes}

theorem Takes.pure (value : α) : (Pure.pure value : Reader α).Takes [] value := by
  intro position rest
  rfl

theorem Takes.bind
    (begins : first.Takes bytes value)
    (goesOn : (next value).Takes rest result) :
    (first >>= next).Takes (bytes ++ rest) result := by
  intro position behind
  change EStateM.bind first next _ = _
  rw [List.append_assoc, EStateM.bind, begins, List.length_append, ← Nat.add_assoc]
  exact goesOn _ behind

theorem Takes.bind_cons {byte : UInt8}
    (begins : first.Takes [byte] value)
    (goesOn : (next value).Takes rest result) :
    (first >>= next).Takes (byte :: rest) result :=
  begins.bind goesOn

theorem Takes.map (begins : first.Takes bytes value) (change : α → β) :
    (first >>= fun value => Pure.pure (change value)).Takes bytes (change value) := by
  have mapped : (first >>= fun value => Pure.pure (change value)).Takes (bytes ++ [])
      (change value) := begins.bind (Takes.pure _)
  rwa [List.append_nil] at mapped

theorem Gives.pure (bytes : Bytes) (value : α) :
    (Pure.pure value : Reader α).Gives bytes value := by
  intro position
  exact ⟨_, rfl⟩

theorem Takes.thenGives
    (begins : first.Takes bytes value)
    (goesOn : (next value).Gives rest result) :
    (first >>= next).Gives (bytes ++ rest) result := by
  intro position
  change ∃ left, EStateM.bind first next _ = _
  rw [EStateM.bind, begins]
  exact goesOn _

theorem Takes.thenGives_cons {byte : UInt8}
    (begins : first.Takes [byte] value)
    (goesOn : (next value).Gives rest result) :
    (first >>= next).Gives (byte :: rest) result :=
  begins.thenGives goesOn

theorem Gives.map (gives : first.Gives bytes value) (change : α → β) :
    (first >>= fun value => Pure.pure (change value)).Gives bytes (change value) := by
  intro position
  obtain ⟨left, read⟩ := gives position
  change ∃ left, EStateM.bind first (fun value => Pure.pure (change value)) _ = _
  rw [EStateM.bind, read]
  exact ⟨left, rfl⟩

theorem Gives.more
    {next : Bool → Reader β}
    (goesOn : (next !bytes.isEmpty).Gives bytes result) :
    (Reader.more >>= next).Gives bytes result := by
  intro position
  exact goesOn position

theorem Gives.runOn (gives : first.Gives bytes value) : first.runOn bytes = .ok value := by
  obtain ⟨left, read⟩ := gives 0
  unfold Reader.runOn Cursor.ofPayload
  rw [read]

end Steps

/-- Nothing that a reader takes begins anything else that it takes. -/
theorem Takes.eq_of_isPrefix
    {reader : Reader α}
    {bytes longer : Bytes}
    {value other : α}
    (takes : reader.Takes bytes value)
    (takesLonger : reader.Takes longer other)
    (begins : bytes <+: longer) :
    bytes = longer ∧ value = other := by
  obtain ⟨rest, rfl⟩ := begins
  have whole := takesLonger 0 []
  rw [List.append_nil, takes] at whole
  injection whole with same places
  cases (Cursor.mk.inj places).2
  exact ⟨(List.append_nil bytes).symm, same⟩

/-! ## Numbers -/

theorem take_takes (bytes : Bytes) (field : FieldKind) :
    (take bytes.length field).Takes bytes bytes := by
  intro position rest
  exact take_append rfl field position

theorem integer_takes (width : Nat) {value : Nat} (fits : value < Nat.pow 256 width) :
    (integer width).Takes (Bytes.ofNatLE width value) value := by
  have taken := (take_takes (Bytes.ofNatLE width value) (.integer width)).map Bytes.toNatLE
  rwa [Bytes.length_ofNatLE, Bytes.toNatLE_ofNatLE, Nat.mod_eq_of_lt fits] at taken

theorem int1_takes (value : UInt8) : int1.Takes [value] value := by
  have taken := (integer_takes 1 value.toNat_lt).map UInt8.ofNat
  have byte : Bytes.ofNatLE 1 value.toNat = [value] := by
    rw [Bytes.ofNatLE, Bytes.ofNatLE, UInt8.ofNat_toNat]
  rwa [byte, UInt8.ofNat_toNat] at taken

theorem int2_takes (value : UInt16) : int2.Takes (Bytes.ofUInt16 value) value := by
  have taken := (integer_takes 2 value.toNat_lt).map UInt16.ofNat
  rwa [UInt16.ofNat_toNat] at taken

theorem int3_takes {value : Nat} (fits : value < 16777216) :
    int3.Takes (Bytes.ofNatLE 3 value) (UInt32.ofNat value) :=
  (integer_takes 3 fits).map UInt32.ofNat

theorem int4_takes (value : UInt32) : int4.Takes (Bytes.ofUInt32 value) value := by
  have taken := (integer_takes 4 value.toNat_lt).map UInt32.ofNat
  rwa [UInt32.ofNat_toNat] at taken

theorem int8_takes (value : UInt64) : int8.Takes (Bytes.ofUInt64 value) value := by
  have taken := (integer_takes 8 value.toNat_lt).map UInt64.ofNat
  rwa [UInt64.ofNat_toNat] at taken

theorem lengthEncoded_takes (value : UInt64) :
    lengthEncoded.Takes (Field.lengthEncoded value) value := by
  unfold Field.lengthEncoded
  split
  · rename_i short
    have small : value.toNat < 251 := UInt64.lt_iff_toNat_lt.mp short
    have byte : value.toUInt8.toNat = value.toNat := by
      rw [UInt64.toNat_toUInt8]
      omega
    have same : value.toUInt8.toUInt64 = value := by
      apply UInt64.toNat_inj.mp
      rw [UInt8.toNat_toUInt64, byte]
    -- A byte below 251 is none of the five markers.
    have unmarked : ∀ marker : UInt8, 251 ≤ marker.toNat → value.toUInt8 ≠ marker := by
      intro marker high equal
      rw [← equal, byte] at high
      omega
    refine (int1_takes value.toUInt8).bind_cons ?_
    rw [if_neg (unmarked 0xFB (by decide)), if_neg (unmarked 0xFC (by decide)),
      if_neg (unmarked 0xFD (by decide)), if_neg (unmarked 0xFE (by decide)),
      if_neg (unmarked 0xFF (by decide)), same]
    exact Takes.pure value
  · split
    · rename_i twoBytes
      have small : value.toNat < 65536 := UInt64.lt_iff_toNat_lt.mp twoBytes
      have taken : int2.Takes (Bytes.ofNatLE 2 value.toNat) (UInt16.ofNat value.toNat) :=
        (integer_takes 2 small).map UInt16.ofNat
      have widened := taken.map UInt16.toUInt64
      rw [UInt16.toUInt64_ofNat' small, UInt64.ofNat_toNat] at widened
      exact (int1_takes 0xFC).bind_cons widened
    · split
      · rename_i threeBytes
        have small : value.toNat < 16777216 := UInt64.lt_iff_toNat_lt.mp threeBytes
        have fits : value.toNat < UInt32.size := Nat.lt_trans small (by decide)
        have widened := (int3_takes small).map UInt32.toUInt64
        rw [UInt32.toUInt64_ofNat' fits, UInt64.ofNat_toNat] at widened
        exact (int1_takes 0xFD).bind_cons widened
      · exact (int1_takes 0xFE).bind_cons (int8_takes value)

theorem skip_takes (bytes : Bytes) : (skip bytes.length).Takes bytes () :=
  (take_takes bytes .reserved).map fun _ => ()

theorem fixed_takes (bytes : Bytes) : (fixed bytes.length).Takes bytes bytes :=
  take_takes bytes .fixedText

theorem fixedBytes_takes {size : Nat} (bytes : FixedBytes size) :
    (fixedBytes size).Takes bytes.toList bytes := by
  intro position rest
  have length_eq := bytes.length_toList
  simp [fixedBytes, length_eq]

theorem lengthPrefixed_takes {bytes : Bytes} (fits : bytes.length < UInt64.size) :
    lengthPrefixed.Takes (Field.lengthPrefixed bytes) bytes := by
  have length : (UInt64.ofNat bytes.length).toNat = bytes.length := by
    rw [UInt64.toNat_ofNat']
    exact Nat.mod_eq_of_lt fits
  apply (lengthEncoded_takes (UInt64.ofNat bytes.length)).bind
  rw [length]
  exact fixed_takes bytes

theorem untilZero_takes {bytes : Bytes} (noZero : 0 ∉ bytes) :
    untilZero.Takes (Field.zeroTerminated bytes) bytes := by
  intro position rest
  rw [Field.zeroTerminated, List.append_assoc, List.length_append]
  exact untilZero_append noZero rest position

theorem textUntilZero_takes_bytes {bytes : Bytes} (noZero : 0 ∉ bytes) :
    textUntilZero.Takes (Field.zeroTerminated bytes) (Utf8.decodeLossy bytes) :=
  (untilZero_takes noZero).map Utf8.decodeLossy

theorem textUntilZero_takes {text : String} (free : Utf8.ZeroFree text) :
    textUntilZero.Takes (Field.zeroTerminated (Utf8.encode text)) text := by
  have taken := textUntilZero_takes_bytes free.zero_notMem_encode
  rwa [Utf8.decodeLossy_encode] at taken

theorem zero_notMem_takeWhile (bytes : Bytes) : 0 ∉ bytes.takeWhile (· != 0) := by
  intro member
  have other := List.all_eq_true.mp List.all_takeWhile 0 member
  cases other

/-- A zero byte within the bytes ends them early. -/
theorem zeroTerminated_takeWhile (bytes : Bytes) :
    Field.zeroTerminated (bytes.takeWhile (· != 0)) <+: Field.zeroTerminated bytes := by
  unfold Field.zeroTerminated
  induction bytes with
  | nil => exact List.prefix_rfl
  | cons byte rest ih =>
      by_cases zero : byte = 0
      · subst zero
        exact ⟨rest ++ [0], rfl⟩
      · have other : (byte != 0) = true := bne_iff_ne.mpr zero
        simp only [List.takeWhile_cons, other, if_true, List.cons_append]
        exact (List.prefix_cons_inj byte).mpr ih

theorem toEnd_gives (bytes : Bytes) : toEnd.Gives bytes bytes := by
  intro position
  exact ⟨_, rfl⟩

theorem zeroTerminated_ne_nil (bytes : Bytes) : Field.zeroTerminated bytes ≠ [] :=
  List.append_ne_nil_of_right_ne_nil bytes (List.cons_ne_nil 0 [])

theorem isEmpty_zeroTerminated (bytes rest : Bytes) :
    (Field.zeroTerminated bytes ++ rest).isEmpty = false := by
  cases bytes with
  | nil => rfl
  | cons byte later => rfl

def announcedText (announced : Bool) : Option String → Bytes
  | some text => if announced then Field.zeroTerminated (Utf8.encode text) else []
  | none => []

end SqlGate.Reader
