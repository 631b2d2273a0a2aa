import SqlGate.Bytes
import SqlGate.Text.Numeral

/-!
# Hexadecimal text

Bytes and numbers in base sixteen.
-/

namespace SqlGate.Hex

set_option autoImplicit false

def byteUpper (byte : UInt8) : String :=
  String.ofList
    [(Nat.digitChar (byte.toNat / 16)).toUpper, (Nat.digitChar (byte.toNat % 16)).toUpper]

def ofNat (value : Nat) : String := String.ofList (Nat.toDigits 16 value)

def encode (bytes : Bytes) : String :=
  String.ofList (bytes.flatMap fun byte =>
    [Nat.digitChar (byte.toNat / 16), Nat.digitChar (byte.toNat % 16)])

def decodePairs (done : Array UInt8) : List Char → Option (Array UInt8)
  | high :: low :: rest =>
      match Numeral.digit? 16 high, Numeral.digit? 16 low with
      | some high, some low => decodePairs (done.push (UInt8.ofNat (16 * high + low))) rest
      | _, _ => none
  | [] => some done
  | [_] => none

def decode? (text : String) : Option Bytes := (decodePairs #[] text.toList).map (·.toList)

end SqlGate.Hex
