import SqlGate.Proofs.Wire.Places
import SqlGate.Proofs.Wire.Reading

/-!
# Fields one behind the other

Fields are written one behind the other to a buffer that may hold others already, and read off
it in the same order. A field that its writer is made for shows by its own bytes where it ends,
whatever follows it, so each is read as it was written and ends where the buffer ended then.
-/

namespace SqlGate

set_option autoImplicit false

inductive Entry where
  | number (value : UInt64)
  | terminated (bytes : Bytes)
  | counted (bytes : Bytes)
deriving DecidableEq, Repr

namespace Entry

inductive Kind where
  | number
  | terminated
  | counted
deriving DecidableEq, Repr

def kind : Entry → Kind
  | number _ => .number
  | terminated _ => .terminated
  | counted _ => .counted

def written : Entry → Bytes
  | number value => Field.lengthEncoded value
  | terminated bytes => Field.zeroTerminated bytes
  | counted bytes => Field.lengthPrefixed bytes

/-- What the writer of the field is made for. The length of a text is kept in eight bytes. -/
def Writable : Entry → Prop
  | number _ => True
  | terminated bytes => 0 ∉ bytes
  | counted bytes => bytes.length < UInt64.size

def Kind.reader : Kind → Reader Entry
  | number => do return .number (← Reader.lengthEncoded)
  | terminated => do return .terminated (← Reader.untilZero)
  | counted => do return .counted (← Reader.lengthPrefixed)

/-! ## Writing and reading, with the places -/

/-- The field goes to the end of the buffer. It is noted with the place where it ends. -/
def append (entry : Entry) : StateM Bytes (Entry × Nat) := do
  modify (· ++ entry.written)
  return (entry, (← get).length)

def appendAll (entries : List Entry) : StateM Bytes (List (Entry × Nat)) :=
  entries.mapM append

def Kind.take (kind : Kind) : Reader (Entry × Nat) := do
  let entry ← kind.reader
  return (entry, (← get).position)

def takeAll (kinds : List Kind) : Reader (List (Entry × Nat)) :=
  kinds.mapM Kind.take

def placed (place : Nat) : List Entry → List (Entry × Nat)
  | [] => []
  | entry :: later =>
      (entry, place + entry.written.length) :: placed (place + entry.written.length) later

theorem map_fst_placed (place : Nat) (entries : List Entry) :
    (placed place entries).map Prod.fst = entries := by
  induction entries generalizing place with
  | nil => rfl
  | cons entry later ih => rw [placed, List.map_cons, ih]

theorem appendAll_eq (entries : List Entry) (buffer : Bytes) :
    appendAll entries buffer =
      (placed buffer.length entries, buffer ++ entries.flatMap written) := by
  induction entries generalizing buffer with
  | nil => exact congrArg (Prod.mk []) (List.append_nil buffer).symm
  | cons entry later ih =>
      have begun := ih (buffer ++ entry.written)
      rw [List.length_append, List.append_assoc, ← List.flatMap_cons] at begun
      rw [appendAll, List.mapM_cons]
      change (let rest := appendAll later (buffer ++ entry.written)
        ((entry, (buffer ++ entry.written).length) :: rest.1, rest.2)) = _
      rw [begun, List.length_append]
      rfl

theorem Kind.reader_takes {entry : Entry} (writable : entry.Writable) :
    entry.kind.reader.Takes entry.written entry := by
  cases entry with
  | number value => exact (Reader.lengthEncoded_takes value).map Entry.number
  | terminated bytes => exact (Reader.untilZero_takes writable).map Entry.terminated
  | counted bytes => exact (Reader.lengthPrefixed_takes writable).map Entry.counted

theorem Kind.reader_ensures (kind : Kind) (cursor : Cursor) :
    kind.reader.Ensures cursor fun entry _ => entry.Writable := by
  cases kind with
  | number => exact Reader.Ensures.next fun value left => .pure trivial
  | terminated =>
      apply Reader.Ensures.bind
      refine (Reader.untilZero_ensures cursor).mono ?_
      intro bytes left taken
      exact .pure taken.1
  | counted =>
      apply Reader.Ensures.bind
      apply Reader.Ensures.next
      intro length counted
      refine (Reader.take_ensures length.toNat .fixedText counted).mono ?_
      rintro bytes left ⟨whole, _⟩
      exact .pure (whole ▸ length.toNat_lt : bytes.length < UInt64.size)

theorem takeAll_cons
    {kind : Kind}
    {later : List Kind}
    {cursor left last : Cursor}
    {entry : Entry}
    {fields : List (Entry × Nat)}
    (taken : kind.reader cursor = .ok entry left)
    (behind : takeAll later left = .ok fields last) :
    takeAll (kind :: later) cursor = .ok ((entry, left.position) :: fields) last := by
  have first : kind.take cursor = .ok (entry, left.position) left := Reader.bind_eq_of_ok taken
  rw [takeAll, List.mapM_cons]
  refine (Reader.bind_eq_of_ok first).trans ?_
  exact Reader.bind_eq_of_ok behind

theorem takeAll_placed {entries : List Entry}
    (writable : ∀ entry ∈ entries, entry.Writable)
    (place : Nat)
    (rest : Bytes) :
    takeAll (entries.map kind) ⟨place, entries.flatMap written ++ rest⟩ =
      .ok (placed place entries) ⟨place + (entries.flatMap written).length, rest⟩ := by
  induction entries generalizing place with
  | nil => rfl
  | cons entry later ih =>
      obtain ⟨head, tail⟩ := List.forall_mem_cons.mp writable
      have taken := Kind.reader_takes head place (later.flatMap written ++ rest)
      have behind := ih tail (place + entry.written.length)
      rw [List.flatMap_cons, List.append_assoc, List.length_append, ← Nat.add_assoc]
      exact takeAll_cons taken behind

theorem takeAll_ensures (kinds : List Kind) (cursor : Cursor) :
    (takeAll kinds).Ensures cursor fun fields _ => ∀ field ∈ fields, field.1.Writable := by
  induction kinds generalizing cursor with
  | nil => exact .pure (List.forall_mem_nil _)
  | cons kind later ih =>
      rw [takeAll, List.mapM_cons]
      apply Reader.Ensures.bind
      apply Reader.Ensures.bind
      refine (kind.reader_ensures cursor).mono ?_
      intro entry left head
      apply Reader.Ensures.next
      intro place behind
      apply Reader.Ensures.pure
      apply Reader.Ensures.bind
      refine (ih behind).mono ?_
      intro fields _ tail
      exact .pure (List.forall_mem_cons.mpr ⟨head, tail⟩)

end Entry

/-- Fields are added to a buffer of which all was read before. With readers of the same kinds in
the same order they are read as they were written, each up to the place where the buffer ended
then, and nothing is left, just if each is one that its writer is made for. -/
theorem fields_are_read_as_they_were_written (already : Bytes) (entries : List Entry) :
    let (fields, packet) := Entry.appendAll entries already
    fields.map Prod.fst = entries ∧
      (Entry.takeAll (entries.map Entry.kind) (Cursor.after packet already.length) =
          .ok fields ⟨packet.length, []⟩ ↔
        ∀ entry ∈ entries, entry.Writable) := by
  rw [Entry.appendAll_eq]
  have entire := Entry.map_fst_placed already.length entries
  refine ⟨entire, ?_⟩
  constructor
  · intro read entry member
    rw [← entire] at member
    obtain ⟨field, noted, rfl⟩ := List.mem_map.mp member
    exact Entry.takeAll_ensures _ _ _ _ read field noted
  · intro writable
    have read := Entry.takeAll_placed writable already.length []
    rw [List.append_nil] at read
    rw [Cursor.after, List.drop_left, List.length_append]
    exact read

/-- A text with zero bytes behind its length, the marker of an absent value before a zero byte and
the greatest number, all behind a byte that was read before. -/
theorem three_fields_are_read_behind_another :
    (∀ entry ∈ [Entry.counted [0, 0xFF, 0], .terminated [0xFB], .number 0xFFFFFFFFFFFFFFFF],
        entry.Writable) ∧
      Entry.takeAll [.counted, .terminated, .number]
          (Cursor.after [9, 3, 0, 0xFF, 0, 0xFB, 0,
            0xFE, 0xFF, 0xFF, 0xFF, 0xFF, 0xFF, 0xFF, 0xFF, 0xFF] 1) =
        .ok [(.counted [0, 0xFF, 0], 5), (.terminated [0xFB], 7),
          (.number 0xFFFFFFFFFFFFFFFF, 16)] ⟨16, []⟩ := by
  have writable : ∀ entry ∈
      [Entry.counted [0, 0xFF, 0], .terminated [0xFB], .number 0xFFFFFFFFFFFFFFFF],
      entry.Writable := by
    simp [Entry.Writable, UInt64.size]
  exact ⟨writable, (fields_are_read_as_they_were_written [9] _).2.mpr writable⟩

end SqlGate
