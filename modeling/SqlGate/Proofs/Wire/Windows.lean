import SqlGate.Proofs.Wire.Places
import SqlGate.Proofs.Wire.Reads

/-!
# Reading by index

A `Window` is a packet in memory with the index of the next byte. Indices are machine words, so
that a sum may overflow, a difference may fall below zero and a slice may lie outside its bytes.
All of these are checked here, and one that goes wrong is a `Breach`, which is no problem of a
packet. Read by read a window follows the cursor, and never breaches.
-/

namespace SqlGate

set_option autoImplicit false

inductive Breach where
  | overflow
  | underflow
  | outOfRange
deriving DecidableEq, Repr

abbrev Checked := Except Breach

namespace Checked

def add (left right : UInt64) : Checked UInt64 :=
  if left.toNat + right.toNat < UInt64.size then .ok (left + right) else .error .overflow

def sub (left right : UInt64) : Checked UInt64 :=
  if right.toNat ≤ left.toNat then .ok (left - right) else .error .underflow

def slice (bytes : Bytes) (first last : UInt64) : Checked Bytes :=
  if first.toNat ≤ last.toNat ∧ last.toNat ≤ bytes.length then
    .ok ((bytes.take last.toNat).drop first.toNat)
  else .error .outOfRange

def byte (bytes : Bytes) (index : Nat) : Checked UInt8 :=
  match bytes[index]? with
  | some byte => .ok byte
  | none => .error .outOfRange

def pick (count : Nat) (bytes : Bytes) : Checked Bytes := (List.range count).mapM (byte bytes)

def copy (size : Nat) (bytes : Bytes) : Checked Bytes :=
  if bytes.length = size then .ok bytes else .error .outOfRange

end Checked

structure Window where
  data : Bytes
  index : UInt64
deriving DecidableEq, Repr

namespace Window

def ofPayload (payload : Bytes) : Window := ⟨payload, 0⟩

def length (window : Window) : UInt64 := .ofNat window.data.length

def remaining (window : Window) : Checked UInt64 := Checked.sub window.length window.index

def hasRemaining (window : Window) : Bool := window.index < window.length

def cursor (window : Window) : Cursor := Cursor.after window.data window.index.toNat

end Window

abbrev IndexReader := ExceptT WireError (StateT Window Checked)

namespace IndexReader

def take (count : UInt64) (field : FieldKind) : IndexReader Bytes := fun window => do
  let left ← window.remaining
  if left < count then return (.error (.short field count.toNat left.toNat), window)
  else
    let last ← Checked.add window.index count
    let bytes ← Checked.slice window.data window.index last
    return (.ok bytes, { window with index := last })

def integer (width : Nat) : IndexReader Nat := do
  let bytes ← take (.ofNat width) (.integer width)
  return Bytes.toNatLE (← Checked.pick width bytes)

def int1 : IndexReader UInt8 := do return UInt8.ofNat (← integer 1)

def int2 : IndexReader UInt16 := do return UInt16.ofNat (← integer 2)

def int3 : IndexReader UInt32 := do return UInt32.ofNat (← integer 3)

def int4 : IndexReader UInt32 := do return UInt32.ofNat (← integer 4)

/-- Other than those of the shorter integers, the bytes are copied together. -/
def int8 : IndexReader UInt64 := do
  let bytes ← take 8 (.integer 8)
  return UInt64.ofNat (Bytes.toNatLE (← Checked.copy 8 bytes))

def lengthEncoded : IndexReader UInt64 := do
  let marker ← int1
  if marker = 0xFB then return 0
  else if marker = 0xFC then return (← int2).toUInt64
  else if marker = 0xFD then return (← int3).toUInt64
  else if marker = 0xFE then int8
  else if marker = 0xFF then throw .reservedMarker
  else return marker.toUInt64

def skip (count : UInt64) : IndexReader Unit := do
  let _ ← take count .reserved

def fixed (count : UInt64) : IndexReader Bytes := take count .fixedText

def lengthPrefixed : IndexReader Bytes := do
  fixed (← lengthEncoded)

def untilZero : IndexReader Bytes := fun window => do
  let rest ← Checked.slice window.data window.index window.length
  match rest.findIdx? (· == 0) with
  | none => return (.error .unterminated, window)
  | some place =>
      let zero := UInt64.ofNat place
      let bytes ← Checked.slice rest 0 zero
      let next ← Checked.add window.index (← Checked.add zero 1)
      return (.ok bytes, { window with index := next })

def textUntilZero : IndexReader String := do
  return Utf8.decodeLossy (← untilZero)

def toEnd : IndexReader Bytes := fun window => do
  let bytes ← Checked.slice window.data window.index window.length
  return (.ok bytes, { window with index := window.length })

def textToEnd : IndexReader String := do
  return Utf8.decodeLossy (← toEnd)

end IndexReader

def Read.indexed : {α : Type} → Read α → IndexReader α
  | _, int1 => IndexReader.int1
  | _, int2 => IndexReader.int2
  | _, int3 => IndexReader.int3
  | _, int4 => IndexReader.int4
  | _, int8 => IndexReader.int8
  | _, lengthEncoded => IndexReader.lengthEncoded
  | _, skip count => IndexReader.skip count
  | _, fixed count => IndexReader.fixed count
  | _, lengthPrefixed => IndexReader.lengthPrefixed
  | _, untilZero => IndexReader.untilZero
  | _, textUntilZero => IndexReader.textUntilZero
  | _, toEnd => IndexReader.toEnd
  | _, textToEnd => IndexReader.textToEnd

/-! ## Checks that pass -/

namespace Checked

theorem bind_of_passes {α β : Type} {check : Checked α} {value : α}
    (passes : check = .ok value)
    (next : α → Checked β) :
    (check >>= next) = next value := by
  subst passes
  rfl

theorem add_eq {left right : UInt64} (fits : left.toNat + right.toNat < UInt64.size) :
    add left right = .ok (left + right) ∧ (left + right).toNat = left.toNat + right.toNat := by
  refine ⟨if_pos fits, ?_⟩
  rw [UInt64.toNat_add]
  exact Nat.mod_eq_of_lt fits

theorem sub_eq {left right : UInt64} (ordered : right.toNat ≤ left.toNat) :
    sub left right = .ok (left - right) ∧ (left - right).toNat = left.toNat - right.toNat :=
  ⟨if_pos ordered, UInt64.toNat_sub_of_le left right (UInt64.le_iff_toNat_le.mpr ordered)⟩

theorem slice_eq {bytes : Bytes} {first last : UInt64}
    (ordered : first.toNat ≤ last.toNat)
    (within : last.toNat ≤ bytes.length) :
    slice bytes first last =
      .ok ((bytes.drop first.toNat).take (last.toNat - first.toNat)) := by
  rw [← List.drop_take]
  exact if_pos ⟨ordered, within⟩

theorem byte_eq {bytes : Bytes} {index : Nat} (within : index < bytes.length) :
    byte bytes index = .ok bytes[index] := by
  rw [byte, List.getElem?_eq_getElem within]

theorem pick_eq {count : Nat} {bytes : Bytes} (enough : count ≤ bytes.length) :
    pick count bytes = .ok (bytes.take count) := by
  induction count with
  | zero => rfl
  | succ count ih =>
      have before := ih (Nat.le_of_succ_le enough)
      unfold pick at before ⊢
      rw [List.range_succ, List.mapM_append, before, List.take_succ_eq_append_getElem enough]
      simp only [List.mapM_cons, byte_eq enough]
      rfl

theorem copy_eq {size : Nat} {bytes : Bytes} (whole : bytes.length = size) :
    copy size bytes = .ok bytes :=
  if_pos whole

end Checked

/-! ## A window follows its cursor -/

namespace Window

structure Sound (window : Window) : Prop where
  addressable : window.data.length < UInt64.size
  bounded : window.index.toNat ≤ window.data.length

variable {window : Window}

theorem Sound.toNat_length (sound : window.Sound) : window.length.toNat = window.data.length :=
  UInt64.toNat_ofNat_of_lt' sound.addressable

theorem remaining_cursor (window : Window) :
    window.cursor.remaining = window.data.length - window.index.toNat := by
  rw [Cursor.remaining, cursor, Cursor.after, List.length_drop]

theorem Sound.remaining_eq (sound : window.Sound) :
    ∃ left, window.remaining = .ok left ∧ left.toNat = window.cursor.remaining := by
  have bounded := sound.bounded
  rw [← sound.toNat_length] at bounded
  obtain ⟨passes, value⟩ := Checked.sub_eq bounded
  exact ⟨_, passes, by rw [value, sound.toNat_length, remaining_cursor]⟩

/-- What is read and what remains make up the packet. -/
theorem Sound.conserved (sound : window.Sound) :
    ∃ left,
      window.remaining = .ok left ∧
        window.index.toNat + left.toNat = window.data.length ∧
        (window.hasRemaining = true ↔ 0 < left) := by
  have bounded := sound.bounded
  obtain ⟨left, passes, value⟩ := sound.remaining_eq
  rw [remaining_cursor] at value
  refine ⟨left, passes, by omega, ?_⟩
  rw [hasRemaining, decide_eq_true_iff, UInt64.lt_iff_toNat_lt, UInt64.lt_iff_toNat_lt,
    sound.toNat_length, UInt64.toNat_zero]
  omega

end Window

namespace IndexReader

variable {α β : Type}

def shown : Except WireError α × Window → EStateM.Result WireError Cursor α
  | (.ok value, window) => .ok value window.cursor
  | (.error problem, window) => .error problem window.cursor

/-- From this window there is no breach, and the reader does the same from the cursor. -/
def FollowsAt (window : Window) (indexed : IndexReader α) (reader : Reader α) : Prop :=
  ∃ ended,
    indexed window = .ok ended ∧
      ended.2.data = window.data ∧
      ended.2.Sound ∧
      reader window.cursor = shown ended

section Steps

variable {window : Window}

theorem FollowsAt.bind
    {first : IndexReader α}
    {next : α → IndexReader β}
    {reader : Reader α}
    {goingOn : α → Reader β}
    (begins : FollowsAt window first reader)
    (goesOn : ∀ value after, after.Sound → reader window.cursor = .ok value after.cursor →
      FollowsAt after (next value) (goingOn value)) :
    FollowsAt window (first >>= next) (reader >>= goingOn) := by
  obtain ⟨⟨answer, after⟩, run, same, sound, read⟩ := begins
  cases answer with
  | ok value =>
      obtain ⟨ended, runNext, sameNext, soundNext, readNext⟩ := goesOn value after sound read
      refine ⟨ended, ?_, sameNext.trans same, soundNext, ?_⟩
      · change (first window >>= _) = _
        rw [run]
        exact runNext
      · exact (Reader.bind_eq_of_ok read).trans readNext
  | error problem =>
      refine ⟨(.error problem, after), ?_, same, sound, Reader.bind_eq_of_error read⟩
      change (first window >>= _) = _
      rw [run]
      rfl

theorem FollowsAt.pure (sound : window.Sound) (value : α) :
    FollowsAt window (Pure.pure value) (Pure.pure value) :=
  ⟨(.ok value, window), rfl, rfl, sound, rfl⟩

theorem FollowsAt.throw (sound : window.Sound) (problem : WireError) :
    FollowsAt (α := α) window (MonadExcept.throw problem) (MonadExcept.throw problem) :=
  ⟨(.error problem, window), rfl, rfl, sound, rfl⟩

theorem FollowsAt.map
    {first : IndexReader α}
    {reader : Reader α}
    (begins : FollowsAt window first reader)
    (change : α → β) :
    FollowsAt window (first >>= fun value => Pure.pure (change value))
      (reader >>= fun value => Pure.pure (change value)) :=
  begins.bind fun _ _ sound _ => .pure sound _

/-- A read that succeeds has only moved the index. -/
theorem FollowsAt.moves
    {indexed : IndexReader α}
    {reader : Reader α}
    {next : UInt64}
    (sound : window.Sound)
    (value : α)
    (bounded : next.toNat ≤ window.data.length)
    (run : indexed window = .ok (.ok value, { window with index := next }))
    (read : reader window.cursor = .ok value (Cursor.after window.data next.toNat)) :
    FollowsAt window indexed reader :=
  ⟨(.ok value, { window with index := next }), run, rfl, ⟨sound.addressable, bounded⟩, read⟩

theorem FollowsAt.stays
    {indexed : IndexReader α}
    {reader : Reader α}
    {problem : WireError}
    (sound : window.Sound)
    (run : indexed window = .ok (.error problem, window))
    (read : reader window.cursor = .error problem window.cursor) :
    FollowsAt window indexed reader :=
  ⟨(.error problem, window), run, rfl, sound, read⟩

/-- A check that passes is not seen at the cursor. -/
theorem FollowsAt.checked
    {check : Checked α}
    {value : α}
    {next : α → IndexReader β}
    {reader : Reader β}
    (passes : check = .ok value)
    (goesOn : FollowsAt window (next value) reader) :
    FollowsAt window (liftM check >>= next) reader := by
  subst passes
  exact goesOn

end Steps

section Fields

variable {window : Window}

theorem take_follows (sound : window.Sound) (count : UInt64) (field : FieldKind) :
    FollowsAt window (take count field) (Reader.take count.toNat field) := by
  obtain ⟨left, remaining, value⟩ := sound.remaining_eq
  by_cases few : left < count
  · have short : window.cursor.rest.length < count.toNat := by
      rwa [UInt64.lt_iff_toNat_lt, value] at few
    have failed := Reader.take_of_few short field window.index.toNat
    refine .stays sound ?_ failed
    rw [take, Checked.bind_of_passes remaining, if_pos few, value]
    rfl
  · have bounded := sound.bounded
    have enough := few
    rw [UInt64.lt_iff_toNat_lt, value, Window.remaining_cursor] at enough
    -- What is asked for was compared with what remains, so the sum is within the packet.
    have ends : window.index.toNat + count.toNat ≤ window.data.length := by omega
    obtain ⟨sum, last⟩ := Checked.add_eq (Nat.lt_of_le_of_lt ends sound.addressable)
    have slice := @Checked.slice_eq window.data window.index (window.index + count)
      (by omega) (by omega)
    rw [last, Nat.add_sub_cancel_left] at slice
    refine .moves sound (window.cursor.rest.take count.toNat) (last ▸ ends) ?_ ?_
    · rw [take, Checked.bind_of_passes remaining, if_neg few, Checked.bind_of_passes sum,
        Checked.bind_of_passes slice]
      rfl
    · have whole : (window.cursor.rest.take count.toNat).length = count.toNat := by
        rw [List.length_take]
        exact Nat.min_eq_left (by rwa [UInt64.lt_iff_toNat_lt, value, Nat.not_lt] at few)
      have taken := @Reader.take_append _ _ (window.cursor.rest.drop count.toNat) whole field
        window.index.toNat
      rw [List.take_append_drop] at taken
      rw [Cursor.after, last, ← List.drop_drop]
      exact taken

theorem rest_eq (sound : window.Sound) :
    Checked.slice window.data window.index window.length = .ok window.cursor.rest := by
  have length := sound.toNat_length
  have slice := @Checked.slice_eq window.data window.index window.length
    (length ▸ sound.bounded) (Nat.le_of_eq length)
  rwa [length, ← List.length_drop, List.take_length] at slice

/-- The first zero byte ends the bytes before it. -/
theorem split_of_findIdx? {bytes : Bytes} {place : Nat}
    (found : bytes.findIdx? (· == 0) = some place) :
    0 ∉ bytes.take place ∧
      (bytes.take place).length = place ∧
      bytes = bytes.take place ++ 0 :: bytes.drop (place + 1) := by
  obtain ⟨within, zero, before⟩ := List.findIdx?_eq_some_iff_getElem.mp found
  have here : bytes[place] = 0 := eq_of_beq zero
  refine ⟨?_, List.length_take_of_le (Nat.le_of_lt within), ?_⟩
  · intro member
    obtain ⟨index, inside, same⟩ := List.getElem_of_mem member
    rw [List.length_take] at inside
    rw [List.getElem_take] at same
    exact before index (by omega) (beq_of_eq same)
  · rw [← here, List.getElem_cons_drop, List.take_append_drop]

theorem untilZero_follows (sound : window.Sound) :
    FollowsAt window untilZero Reader.untilZero := by
  cases found : window.cursor.rest.findIdx? (· == 0) with
  | none =>
      have noZero : 0 ∉ window.cursor.rest := by
        intro member
        have other := List.findIdx?_eq_none_iff.mp found 0 member
        cases other
      refine .stays sound ?_ (Reader.untilZero_of_noZero noZero window.index.toNat)
      rw [untilZero, Checked.bind_of_passes (rest_eq sound), found]
      rfl
  | some place =>
      obtain ⟨noZero, length, split⟩ := split_of_findIdx? found
      have addressable := sound.addressable
      have total := congrArg List.length split
      rw [List.length_append, length, List.length_cons] at total
      have here : window.cursor.rest.length = window.data.length - window.index.toNat :=
        Window.remaining_cursor window
      -- The zero byte is itself a byte of the packet, so the place behind it is no further.
      have ends : window.index.toNat + (place + 1) ≤ window.data.length := by omega
      have zero : (UInt64.ofNat place).toNat = place := UInt64.toNat_ofNat_of_lt' (by omega)
      have slice := @Checked.slice_eq window.cursor.rest 0 (UInt64.ofNat place)
        (Nat.zero_le _) (by omega)
      rw [zero] at slice
      obtain ⟨past, pastValue⟩ := @Checked.add_eq (UInt64.ofNat place) 1
        (by rw [zero, UInt64.toNat_one]; omega)
      rw [zero, UInt64.toNat_one] at pastValue
      obtain ⟨sum, next⟩ := @Checked.add_eq window.index (UInt64.ofNat place + 1) (by omega)
      rw [pastValue] at next
      refine .moves sound (window.cursor.rest.take place) (next ▸ ends) ?_ ?_
      · rw [untilZero, Checked.bind_of_passes (rest_eq sound), found]
        change (Checked.slice window.cursor.rest 0 (UInt64.ofNat place) >>= _) = _
        rw [Checked.bind_of_passes slice, Checked.bind_of_passes past, Checked.bind_of_passes sum]
        rfl
      · have read := Reader.untilZero_append noZero (window.cursor.rest.drop (place + 1))
          window.index.toNat
        rw [← split, length, Nat.add_assoc] at read
        rw [Cursor.after, next, ← List.drop_drop]
        exact read

theorem toEnd_follows (sound : window.Sound) : FollowsAt window toEnd Reader.toEnd := by
  have length := sound.toNat_length
  refine .moves sound window.cursor.rest (Nat.le_of_eq length) ?_ ?_
  · rw [toEnd, Checked.bind_of_passes (rest_eq sound)]
    rfl
  · have reached : window.index.toNat + window.cursor.remaining = window.length.toNat := by
      rw [Window.remaining_cursor, length]
      exact Nat.add_sub_cancel' sound.bounded
    have none : window.data.drop window.length.toNat = [] := by
      rw [length, List.drop_length]
    change EStateM.Result.ok _ (Cursor.mk (window.index.toNat + _) []) =
      EStateM.Result.ok _ (Cursor.after window.data window.length.toNat)
    rw [reached, Cursor.after, none]

theorem integer_follows (sound : window.Sound) {width : Nat} (small : width < UInt64.size) :
    FollowsAt window (integer width) (Reader.integer width) := by
  have taken := take_follows sound (.ofNat width) (.integer width)
  rw [UInt64.toNat_ofNat_of_lt' small] at taken
  refine taken.bind ?_
  intro bytes after soundAfter read
  obtain ⟨whole, _⟩ := Reader.take_ensures width _ _ bytes _ read
  have picked := Checked.pick_eq (Nat.le_of_eq whole.symm)
  rw [← whole, List.take_length, whole] at picked
  exact FollowsAt.checked picked (.pure soundAfter _)

theorem int1_follows (sound : window.Sound) : FollowsAt window int1 Reader.int1 :=
  (integer_follows sound (by decide)).map UInt8.ofNat

theorem int2_follows (sound : window.Sound) : FollowsAt window int2 Reader.int2 :=
  (integer_follows sound (by decide)).map UInt16.ofNat

theorem int3_follows (sound : window.Sound) : FollowsAt window int3 Reader.int3 :=
  (integer_follows sound (by decide)).map UInt32.ofNat

theorem int4_follows (sound : window.Sound) : FollowsAt window int4 Reader.int4 :=
  (integer_follows sound (by decide)).map UInt32.ofNat

theorem int8_follows (sound : window.Sound) : FollowsAt window int8 Reader.int8 := by
  have same : Reader.int8 = Reader.take 8 (.integer 8) >>= fun bytes =>
      pure (UInt64.ofNat (Bytes.toNatLE bytes)) := bind_assoc _ _ _
  rw [same]
  refine (take_follows sound 8 (.integer 8)).bind ?_
  intro bytes after soundAfter read
  obtain ⟨whole, _⟩ := Reader.take_ensures 8 _ _ bytes _ read
  exact FollowsAt.checked (Checked.copy_eq whole) (.pure soundAfter _)

theorem lengthEncoded_follows (sound : window.Sound) :
    FollowsAt window lengthEncoded Reader.lengthEncoded := by
  refine (int1_follows sound).bind ?_
  intro marker after soundAfter _
  split
  · exact .pure soundAfter 0
  · split
    · exact (int2_follows soundAfter).map UInt16.toUInt64
    · split
      · exact (int3_follows soundAfter).map UInt32.toUInt64
      · split
        · exact int8_follows soundAfter
        · split
          · exact .throw soundAfter .reservedMarker
          · exact .pure soundAfter marker.toUInt64

end Fields

end IndexReader

theorem Read.follows {α : Type} (read : Read α) {window : Window} (sound : window.Sound) :
    IndexReader.FollowsAt window read.indexed read.reader := by
  open IndexReader in
  cases read with
  | int1 => exact int1_follows sound
  | int2 => exact int2_follows sound
  | int3 => exact int3_follows sound
  | int4 => exact int4_follows sound
  | int8 => exact int8_follows sound
  | lengthEncoded => exact lengthEncoded_follows sound
  | skip count => exact (take_follows sound count .reserved).map fun _ => ()
  | fixed count => exact take_follows sound count .fixedText
  | lengthPrefixed =>
      refine (lengthEncoded_follows sound).bind ?_
      intro count after soundAfter _
      exact take_follows soundAfter count .fixedText
  | untilZero => exact untilZero_follows sound
  | textUntilZero => exact (untilZero_follows sound).map Utf8.decodeLossy
  | toEnd => exact toEnd_follows sound
  | textToEnd => exact (toEnd_follows sound).map Utf8.decodeLossy

end SqlGate
