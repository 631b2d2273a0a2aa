import SqlGate.Text.Utf8
import SqlGate.Wire.Error

/-!
# Reading a packet

A `Cursor` stands somewhere in a packet. A `Reader` takes a field from the
cursor; when a reader fails, the cursor stays where the failure left it.
`take_append` and `untilZero_append` say which bytes a field takes.
-/

namespace SqlGate

set_option autoImplicit false

structure Cursor where
  position : Nat
  rest : Bytes
deriving DecidableEq, Repr

namespace Cursor

def ofPayload (payload : Bytes) : Cursor := ⟨0, payload⟩

def remaining (cursor : Cursor) : Nat := cursor.rest.length

def hasRemaining (cursor : Cursor) : Bool := !cursor.rest.isEmpty

theorem hasRemaining_iff (cursor : Cursor) :
    cursor.hasRemaining = true ↔ 0 < cursor.remaining := by
  cases cursor with
  | mk position rest => cases rest <;> simp [hasRemaining, remaining]

end Cursor

abbrev Reader := EStateM WireError Cursor

namespace Reader

def take (count : Nat) (field : FieldKind) : Reader Bytes := fun cursor =>
  let (bytes, rest) := cursor.rest.splitAt count
  if bytes.length = count then .ok bytes ⟨cursor.position + count, rest⟩
  else .error (.short field count cursor.remaining) cursor

theorem take_append
    {count : Nat}
    {bytes rest : Bytes}
    (length_eq : bytes.length = count)
    (field : FieldKind)
    (position : Nat) :
    take count field ⟨position, bytes ++ rest⟩ = .ok bytes ⟨position + count, rest⟩ := by
  subst length_eq
  simp [take]

def integer (width : Nat) : Reader Nat := do
  return Bytes.toNatLE (← take width (.integer width))

def int1 : Reader UInt8 := do return UInt8.ofNat (← integer 1)

def int2 : Reader UInt16 := do return UInt16.ofNat (← integer 2)

def int3 : Reader UInt32 := do return UInt32.ofNat (← integer 3)

def int4 : Reader UInt32 := do return UInt32.ofNat (← integer 4)

def int8 : Reader UInt64 := do return UInt64.ofNat (← integer 8)

/-- A number of one, three, four or nine bytes. The marker 0xFB stands for an
absent value and reads as zero. -/
def lengthEncoded : Reader UInt64 := do
  let marker ← int1
  if marker = 0xFB then return 0
  else if marker = 0xFC then return (← int2).toUInt64
  else if marker = 0xFD then return (← int3).toUInt64
  else if marker = 0xFE then int8
  else if marker = 0xFF then throw .reservedMarker
  else return marker.toUInt64

def skip (count : Nat) : Reader Unit := do
  let _ ← take count .reserved

def fixed (count : Nat) : Reader Bytes := take count .fixedText

def fixedBytes (count : Nat) : Reader (FixedBytes count) := fun cursor =>
  let (bytes, rest) := cursor.rest.splitAt count
  if h : bytes.length = count then .ok ⟨bytes, h⟩ ⟨cursor.position + count, rest⟩
  else .error (.short .fixedText count cursor.remaining) cursor

def lengthPrefixed : Reader Bytes := do
  fixed (← lengthEncoded).toNat

def untilZero : Reader Bytes := fun cursor =>
  let bytes := cursor.rest.takeWhile (· != 0)
  match cursor.rest.dropWhile (· != 0) with
  | [] => .error .unterminated cursor
  | _ :: rest => .ok bytes ⟨cursor.position + bytes.length + 1, rest⟩

theorem untilZero_append
    {bytes : Bytes}
    (noZero : 0 ∉ bytes)
    (rest : Bytes)
    (position : Nat) :
    untilZero ⟨position, bytes ++ 0 :: rest⟩ =
      .ok bytes ⟨position + bytes.length + 1, rest⟩ := by
  have other : ∀ byte ∈ bytes, (byte != 0) = true := by
    intro byte member
    simpa using fun (zero : byte = 0) => noZero (zero ▸ member)
  have before : (bytes ++ 0 :: rest).takeWhile (· != 0) = bytes := by
    rw [List.takeWhile_append_of_pos other]
    simp
  have after : (bytes ++ 0 :: rest).dropWhile (· != 0) = 0 :: rest := by
    rw [List.dropWhile_append_of_pos other]
    simp
  simp [untilZero, before, after]

def textUntilZero : Reader String := do
  return Utf8.decodeLossy (← untilZero)

def toEnd : Reader Bytes := fun cursor =>
  .ok cursor.rest ⟨cursor.position + cursor.remaining, []⟩

def textToEnd : Reader String := do
  return Utf8.decodeLossy (← toEnd)

def more : Reader Bool := do return (← get).hasRemaining

/-- Bytes that the reader leaves are ignored. -/
def runOn {α : Type} (reader : Reader α) (payload : Bytes) : Except WireError α :=
  match reader (Cursor.ofPayload payload) with
  | .ok value _ => .ok value
  | .error problem _ => .error problem

end Reader

end SqlGate
