import SqlGate.Text.Binary64
import SqlGate.Text.Quoted
import SqlGate.Yaml.Scalar

/-!
# Meanings of scalars

A scalar in quotes is text. One without is nothing, a truth value or a number if
it is written like one, and a tag can ask for one of these.
-/

namespace SqlGate.Yaml

set_option autoImplicit false

inductive Meaning where
  | nothing
  | boolean (value : Bool)
  | integer (value : Int)
  | float (value : Binary64)
  | text (words : String)

/-- Integers past 64 bits are marked. -/
def Meaning.describe : Meaning → String
  | nothing => "unit value"
  | boolean value => "boolean `" ++ toString value ++ "`"
  | integer value =>
      let mark :=
        if 0x10000000000000000 ≤ value then " as u128"
        else if value < -0x8000000000000000 then " as i128"
        else ""
      "integer `" ++ toString value ++ "`" ++ mark
  | float value => "floating point `" ++ value.text ++ "`"
  | text words => "string " ++ Quoted.text words

/-! ## Words without quotes -/

def isNull (words : String) : Bool := ["null", "Null", "NULL", "~"].contains words

def boolean? (words : String) : Option Bool :=
  if ["true", "True", "TRUE"].contains words then some true
  else if ["false", "False", "FALSE"].contains words then some false
  else none

def based? : List Char → Option Nat
  | '0' :: 'x' :: digits => Numeral.ofDigits? 16 digits
  | '0' :: 'o' :: digits => Numeral.ofDigits? 8 digits
  | '0' :: 'b' :: digits => Numeral.ofDigits? 2 digits
  | _ => none

/-- Decimal digits with a zero too many in front are no number. -/
def hasLeadingZero : List Char → Bool
  | '0' :: digit :: rest => (digit :: rest).all Char.isDigit
  | _ => false

def digits? (letters : List Char) : Option Nat :=
  match based? letters with
  | some value => some value
  | none => if hasLeadingZero letters then none else Numeral.ofDigits? 10 letters

def natural? (words : String) : Option Nat :=
  match words.toList with
  | '+' :: letters => digits? letters
  | letters => digits? letters

/-- A whole number of at most 128 bits. -/
def integer? (words : String) : Option Int :=
  match words.toList with
  | '-' :: letters => do
      let value ← digits? letters
      if value ≤ 0x80000000000000000000000000000000 then some (-(value : Int)) else none
  | _ => do
      let value ← natural? words
      if value < 0x100000000000000000000000000000000 then some (value : Int) else none

def float? (words : String) : Option Binary64 :=
  if [".nan", ".NaN", ".NAN"].contains words then some .notNumber
  else if ["-.inf", "-.Inf", "-.INF"].contains words then some (.infinite true)
  else if [".inf", ".Inf", ".INF", "+.inf", "+.Inf", "+.INF"].contains words then
    some (.infinite false)
  else
    match words.toList with
    | '+' :: '-' :: _ => none
    | '+' :: letters => Binary64.ofText? letters
    | letters => Binary64.ofText? letters

/-- What a scalar means that has neither quotes nor a telling tag. -/
def plainMeaning (words : String) : Meaning :=
  let isNumberLike :=
    match words.toList with
    | '-' :: letters => !hasLeadingZero letters
    | '+' :: letters => !hasLeadingZero letters
    | letters => !hasLeadingZero letters
  if words.isEmpty || isNull words then .nothing
  else if let some value := boolean? words then .boolean value
  else if let some value := integer? words then .integer value
  else if let some value := (float? words).filter fun _ => isNumberLike then .float value
  else .text words

/-! ## Tags -/

def booleanTag : String := "tag:yaml.org,2002:bool"

def integerTag : String := "tag:yaml.org,2002:int"

def floatTag : String := "tag:yaml.org,2002:float"

def nullTag : String := "tag:yaml.org,2002:null"

def meaning (tag : Option String) (style : Style) (words : String) : Except String Meaning :=
  let wanted (expected : String) (found : Option Meaning) : Except String Meaning :=
    match found with
    | some meaning => .ok meaning
    | none => .error expected
  let untagged : Meaning := if style = .plain then plainMeaning words else .text words
  match tag with
  | none => .ok untagged
  | some tag =>
      if tag = booleanTag then wanted "a boolean" ((boolean? words).map .boolean)
      else if tag = integerTag then wanted "an integer" ((integer? words).map .integer)
      else if tag = floatTag then wanted "a float" ((float? words).map .float)
      else if tag = nullTag then wanted "null" (if isNull words then some .nothing else none)
      else if tag.startsWith "!" then .ok untagged
      else .ok (.text words)

end SqlGate.Yaml
