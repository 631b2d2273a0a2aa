import SqlGate.Text.Numeral

/-!
# Floating point

Numbers of 53 significant bits. A decimal is rounded to the nearest of them, to
the even one of two, and a number is written with the fewest digits that read
back as it.
-/

namespace SqlGate

set_option autoImplicit false

inductive Binary64 where
  /-- `significand * 2 ^ exponent`. -/
  | finite (negative : Bool) (significand : Nat) (exponent : Int)
  | infinite (negative : Bool)
  | notNumber
deriving DecidableEq, Repr

namespace Binary64

/-! ## Exact fractions -/

structure Fraction where
  numerator : Nat
  denominator : Nat := 1

namespace Fraction

def scale (fraction : Fraction) (base : Nat) (power : Int) : Fraction where
  numerator := fraction.numerator * Nat.pow base power.toNat
  denominator := fraction.denominator * Nat.pow base (-power).toNat

def floor (fraction : Fraction) : Nat := fraction.numerator / fraction.denominator

/-- Whether what the floor leaves is less than, equal to or more than a half. -/
def compareRest (fraction : Fraction) : Ordering :=
  compare (2 * (fraction.numerator % fraction.denominator)) fraction.denominator

def round (fraction : Fraction) : Nat :=
  match fraction.compareRest with
  | .lt => fraction.floor
  | .eq => fraction.floor + fraction.floor % 2
  | .gt => fraction.floor + 1

end Fraction

/-! ## Reading -/

/-- The least significand of 53 bits. Only numbers next to zero have less. -/
def leastFull : Nat := 0x10000000000000

def significandLimit : Nat := 0x20000000000000

/-- The exponent of the numbers next to zero. -/
def leastExponent : Int := -1074

def greatestExponent : Int := 971

/-- The significand and exponent nearest to a fraction; nothing if that is past
the greatest number. -/
def nearest? (fraction : Fraction) : Option (Nat × Int) :=
  let estimate : Int := Nat.log2 fraction.numerator - Nat.log2 fraction.denominator - 53
  let guess := max leastExponent estimate
  let exponent :=
    if significandLimit ≤ (fraction.scale 2 (-guess)).floor then guess + 1 else guess
  let significand := (fraction.scale 2 (-exponent)).round
  let (significand, exponent) :=
    if significand = significandLimit then (leastFull, exponent + 1)
    else (significand, exponent)
  if exponent ≤ greatestExponent then some (significand, exponent) else none

/-- The number nearest to `digits * 10 ^ power`. Powers that are out of reach are
told apart before they are computed. -/
def ofDecimal? (negative : Bool) (digits : Nat) (power : Int) : Option Binary64 :=
  let top := (Nat.toDigits 10 digits).length + power
  if digits = 0 || top ≤ -324 then some (finite negative 0 leastExponent)
  else if 309 < top then none
  else
    (nearest? (Fraction.scale { numerator := digits } 10 power)).map fun (significand, exponent) =>
      finite negative significand exponent

def power? : List Char → Option Int
  | [] => some 0
  | mark :: rest =>
      if mark != 'e' && mark != 'E' then none
      else
        match rest with
        | '-' :: digits => (Numeral.ofDigits? 10 digits).map fun power => -(power : Int)
        | '+' :: digits => (Numeral.ofDigits? 10 digits).map Int.ofNat
        | digits => (Numeral.ofDigits? 10 digits).map Int.ofNat

/-- A decimal numeral: a minus sign or none, digits with at most one point, and a
power of ten or none. Numbers past the greatest one are not read. -/
def ofText? (letters : List Char) : Option Binary64 :=
  match letters with
  | '-' :: rest => unsigned? true rest
  | rest => unsigned? false rest
where
  unsigned? (negative : Bool) (letters : List Char) : Option Binary64 := do
    let whole := letters.takeWhile Char.isDigit
    let rest := letters.dropWhile Char.isDigit
    let (part, rest) :=
      match rest with
      | '.' :: rest => (rest.takeWhile Char.isDigit, rest.dropWhile Char.isDigit)
      | rest => ([], rest)
    let digits ← Numeral.ofDigits? 10 (whole ++ part)
    ofDecimal? negative digits ((← power? rest) - part.length)

/-! ## Writing -/

/-- The decimal with so many digits that is nearest to the number, if it reads
back as the number. An exact tie goes up. -/
def withDigits? (significand : Nat) (exponent : Int) (power : Int) : Option (Nat × Int) :=
  let value := Fraction.scale (Fraction.scale { numerator := significand } 2 exponent) 10 (-power)
  let below :=
    if significand = leastFull && leastExponent < exponent then 4 * significand - 1
    else 4 * significand - 2
  let above := 4 * significand + 2
  let edge (quarters : Nat) : Fraction :=
    Fraction.scale (Fraction.scale { numerator := quarters } 2 (exponent - 2)) 10 (-power)
  let readsBack (digits : Nat) : Bool :=
    let low := edge below
    let high := edge above
    if significand % 2 = 0 then
      low.numerator ≤ digits * low.denominator && digits * high.denominator ≤ high.numerator
    else
      low.numerator < digits * low.denominator && digits * high.denominator < high.numerator
  let candidates :=
    match value.compareRest with
    | .lt => [value.floor, value.floor + 1]
    | _ => [value.floor + 1, value.floor]
  (candidates.find? readsBack).map fun digits => (digits, power)

/-- The fewest digits that read back, and the power of ten behind them. -/
def shortest (significand : Nat) (exponent : Int) : Nat × Int :=
  let value := Fraction.scale { numerator := significand } 2 exponent
  let top : Int := (Nat.toDigits 10 (value.scale 10 400).floor).length - 400
  let found := (List.range 17).findSome? fun fewer =>
    withDigits? significand exponent (top - (fewer + 1 : Nat))
  found.getD (0, 0)

def positional (digits : Nat) (power : Int) : String :=
  let places := (-power).toNat
  let scaled := digits * Nat.pow 10 power.toNat
  let part := Nat.toDigits 10 (scaled % Nat.pow 10 places)
  let padded := List.replicate (places - part.length) '0' ++ part
  let trimmed := (padded.reverse.dropWhile (· = '0')).reverse
  toString (scaled / Nat.pow 10 places) ++ "."
    ++ (if trimmed.isEmpty then "0" else String.ofList trimmed)

def text : Binary64 → String
  | notNumber => "NaN"
  | infinite negative => if negative then "-inf" else "inf"
  | finite negative significand exponent =>
      let (digits, power) := if significand = 0 then (0, 0) else shortest significand exponent
      (if negative then "-" else "") ++ positional digits power

end Binary64

end SqlGate
