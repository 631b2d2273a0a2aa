import SqlGate.Yaml.Scalar

/-!
# Tokens

The tokens of a document, and the readers of directives, anchors and tags.
-/

namespace SqlGate.Yaml

set_option autoImplicit false

inductive Token where
  | versionDirective (major minor : Nat)
  | tagDirective (handle expansion : String)
  | documentStart
  | documentEnd
  | blockSequenceStart
  | blockMappingStart
  | blockEnd
  | flowSequenceStart
  | flowSequenceEnd
  | flowMappingStart
  | flowMappingEnd
  | blockEntry
  | flowEntry
  | key
  | value
  | aliasOf (name : String)
  | anchor (name : String)
  | tag (handle suffix : String)
  | scalar (style : Style) (text : String)
deriving DecidableEq, Repr

/-! ## Anchors and aliases -/

def endsAnchor (letter : Char) : Bool :=
  isBlankOrBreak letter || ['?', ':', ',', ']', '}', '%', '@', '\x60'].contains letter

def anchorName : Scan String := do
  Scan.skip
  let name ← Scan.span isWordLetter
  Scan.require (!name.isEmpty && (← get).head?.all endsAnchor)
  return String.ofList name

/-! ## Tags -/

/-- The letters of a tag's suffix; those of lists only where they are allowed. -/
def isTagLetter (lists : Bool) (letter : Char) : Bool :=
  isWordLetter letter
    || [';', '/', '?', ':', '@', '&', '=', '+', '$', '.', '!', '~', '*', '\'', '(', ')',
        '%'].contains letter
    || lists && [',', '[', ']'].contains letter

def escapedByte : Scan Nat := do
  Scan.expect '%'
  let source ← get
  let some code := Numeral.ofDigits? 16 (source.rest.take 2) | Scan.fail
  Scan.require (2 ≤ source.rest.length)
  set (source.skipMany 2)
  return code

/-- An escaped letter: a byte that begins one and the bytes that continue it.
Only the first byte is kept of letters past ASCII, which no known tag holds. -/
def escapedTagLetter : Scan Char := do
  let first ← escapedByte
  let more ←
    if first < 0x80 then pure 0
    else if first / 0x20 = 6 then pure 1
    else if first / 0x10 = 14 then pure 2
    else if first / 0x08 = 30 then pure 3
    else Scan.fail
  for _ in List.range more do
    Scan.require ((← escapedByte) / 0x40 = 2)
  return Char.ofNat first

def tagLetters (lists : Bool) (known : List Char) : Scan String := do
  let letters ← Scan.repeatFrom known.toArray fun letters => do
    match (← get).head? with
    | some '%' => return .inl (letters.push (← escapedTagLetter))
    | some letter =>
        if isTagLetter lists letter then
          Scan.skip
          return .inl (letters.push letter)
        else return .inr letters
    | none => return .inr letters
  return String.ofList letters.toList

/-- A handle: an exclamation mark, and a word with a second one. In a directive
only the single mark needs no second one. -/
def tagHandle (inDirective : Bool) : Scan (List Char) := do
  Scan.expect '!'
  let word ← Scan.span isWordLetter
  if (← get).at? '!' then
    Scan.skip
    return '!' :: word ++ ['!']
  else
    Scan.require (!inDirective || word.isEmpty)
    return '!' :: word

def isCompleteHandle (handle : List Char) : Bool :=
  2 ≤ handle.length && handle.getLast? == some '!'

/-- A tag written out, or a handle and a suffix. The mark alone is a tag that
has no handle. -/
def tag (inFlow : Bool) : Scan Token := do
  let source ← get
  let token ←
    if source.rest[1]? = some '<' then
      set (source.skipMany 2)
      let suffix ← tagLetters true []
      Scan.require (!suffix.isEmpty)
      Scan.expect '>'
      pure (Token.tag "" suffix)
    else
      let handle ← tagHandle false
      if isCompleteHandle handle then
        let suffix ← tagLetters false []
        Scan.require (!suffix.isEmpty)
        pure (Token.tag (String.ofList handle) suffix)
      else
        let suffix ← tagLetters false handle.tail
        pure (if suffix.isEmpty then Token.tag "" "!" else Token.tag "!" suffix)
  let source ← get
  Scan.require (source.endsWordAt 0 || inFlow && source.at? ',')
  return token

/-! ## Directives -/

/-- A part of a version: at most nine digits. -/
def versionNumber : Scan Nat := do
  let digits ← Scan.span Char.isDigit
  Scan.require (digits.length ≤ 9)
  let some number := Numeral.ofDigits? 10 digits | Scan.fail
  return number

def version : Scan Token := do
  modify (·.skipWhile isBlank)
  let major ← versionNumber
  Scan.expect '.'
  return .versionDirective major (← versionNumber)

def tagDefinition : Scan Token := do
  modify (·.skipWhile isBlank)
  let handle ← tagHandle true
  Scan.require ((← get).head?.any isBlank)
  modify (·.skipWhile isBlank)
  let expansion ← tagLetters true []
  Scan.require (!expansion.isEmpty && (← get).endsWordAt 0)
  return .tagDirective (String.ofList handle) expansion

def directive : Scan Token := do
  Scan.skip
  let name ← Scan.span isWordLetter
  Scan.require (!name.isEmpty && (← get).endsWordAt 0)
  let token ←
    match String.ofList name with
    | "YAML" => version
    | "TAG" => tagDefinition
    | _ => Scan.fail
  modify (·.skipWhile isBlank)
  if (← get).at? '#' then modify (·.skipWhile (!isBreak ·))
  Scan.require ((← get).head?.all isBreak)
  Scan.skip
  return token

end SqlGate.Yaml
