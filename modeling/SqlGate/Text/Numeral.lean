/-!
# Numerals

Numbers written with digits. A numeral is read digit by digit in its base, and
anything that is not a digit makes it no numeral.
-/

namespace SqlGate.Numeral

set_option autoImplicit false

/-- The value of a digit in a base up to 36; letters count in either case. -/
def digit? (base : Nat) (letter : Char) : Option Nat :=
  let value :=
    if '0' ≤ letter && letter ≤ '9' then letter.toNat - '0'.toNat
    else if 'a' ≤ letter && letter ≤ 'z' then letter.toNat - 'a'.toNat + 10
    else if 'A' ≤ letter && letter ≤ 'Z' then letter.toNat - 'A'.toNat + 10
    else base
  if value < base then some value else none

def continue? (base : Nat) (value : Nat) : List Char → Option Nat
  | [] => some value
  | letter :: rest => do
      let digit ← digit? base letter
      continue? base (value * base + digit) rest

def ofDigits? (base : Nat) : List Char → Option Nat
  | [] => none
  | digits => continue? base 0 digits

/-- A natural number with an optional plus sign. Leading zeros are allowed. -/
def natural? (base : Nat) : List Char → Option Nat
  | '+' :: digits => ofDigits? base digits
  | digits => ofDigits? base digits

def below? (limit : Nat) (text : String) : Option Nat :=
  (natural? 10 text.toList).filter (· < limit)

end SqlGate.Numeral
