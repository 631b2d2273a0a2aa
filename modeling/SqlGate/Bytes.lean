/-!
# Bytes

A packet is a list of bytes. Integers travel in little-endian order with a
fixed width; `toNatLE_ofNatLE` and `ofNatLE_toNatLE` say that the two
directions undo each other. `FixedBytes` is a run of bytes whose length is
known from its type.
-/

namespace SqlGate

set_option autoImplicit false

abbrev Bytes := List UInt8

namespace Bytes

def ofNatLE : (width value : Nat) → Bytes
  | 0, _ => []
  | width + 1, value => UInt8.ofNat value :: ofNatLE width (value / 256)

def toNatLE : Bytes → Nat
  | [] => 0
  | byte :: rest => byte.toNat + 256 * toNatLE rest

@[simp] theorem length_ofNatLE (width value : Nat) :
    (ofNatLE width value).length = width := by
  induction width generalizing value with
  | zero => rfl
  | succ width ih => simp [ofNatLE, ih]

theorem toNatLE_ofNatLE (width value : Nat) :
    toNatLE (ofNatLE width value) = value % Nat.pow 256 width := by
  induction width generalizing value with
  | zero => exact (Nat.mod_one value).symm
  | succ width ih =>
      have split : Nat.pow 256 (width + 1) = 256 * Nat.pow 256 width := Nat.mul_comm _ _
      simp only [ofNatLE, toNatLE, ih, UInt8.toNat_ofNat', split, Nat.mod_mul]

theorem toNatLE_lt (bytes : Bytes) : toNatLE bytes < Nat.pow 256 bytes.length := by
  induction bytes with
  | nil => exact Nat.one_pos
  | cons byte rest ih =>
      have bound := byte.toNat_lt
      have split : Nat.pow 256 (rest.length + 1) = 256 * Nat.pow 256 rest.length :=
        Nat.mul_comm _ _
      simp only [toNatLE, List.length_cons, split]
      omega

theorem ofNatLE_toNatLE (bytes : Bytes) :
    ofNatLE bytes.length (toNatLE bytes) = bytes := by
  induction bytes with
  | nil => rfl
  | cons byte rest ih =>
      have bound := byte.toNat_lt
      have quotient : (byte.toNat + 256 * toNatLE rest) / 256 = toNatLE rest := by omega
      have low : UInt8.ofNat (byte.toNat + 256 * toNatLE rest) = byte := by
        apply UInt8.toNat_inj.mp
        simp only [UInt8.toNat_ofNat']
        omega
      simp [ofNatLE, toNatLE, quotient, low, ih]

def ofUInt16 (value : UInt16) : Bytes := ofNatLE 2 value.toNat

def ofUInt32 (value : UInt32) : Bytes := ofNatLE 4 value.toNat

def ofUInt64 (value : UInt64) : Bytes := ofNatLE 8 value.toNat

def dropFinalZero (bytes : Bytes) : Bytes :=
  if bytes.getLast? = some 0 then bytes.dropLast else bytes

@[simp] theorem dropFinalZero_append_zero (bytes : Bytes) :
    dropFinalZero (bytes ++ [0]) = bytes := by
  simp [dropFinalZero]

end Bytes

structure FixedBytes (size : Nat) where
  toList : Bytes
  length_toList : toList.length = size
deriving DecidableEq

namespace FixedBytes

def zero (size : Nat) : FixedBytes size :=
  ⟨List.replicate size 0, List.length_replicate⟩

instance (size : Nat) : Inhabited (FixedBytes size) := ⟨zero size⟩

def ofList? (size : Nat) (bytes : Bytes) : Option (FixedBytes size) :=
  if h : bytes.length = size then some ⟨bytes, h⟩ else none

theorem ext {size : Nat} {left right : FixedBytes size}
    (same : left.toList = right.toList) :
    left = right := by
  cases left
  cases right
  simp_all

@[simp] theorem ofList?_toList {size : Nat} (bytes : FixedBytes size) :
    ofList? size bytes.toList = some bytes := by
  simp [ofList?, bytes.length_toList]

end FixedBytes

end SqlGate
