/-!
# Source text of a document

A `Source` is what is left of a YAML text, with the line and column where it
stands. A `Scan` takes letters from its front or finds the text ill-formed.
-/

namespace SqlGate.Yaml

set_option autoImplicit false

def isBreak (letter : Char) : Bool :=
  letter = '\n' || letter = '\u2028' || letter = '\u2029'

def isBlank (letter : Char) : Bool := letter = ' ' || letter = '\t'

def isBlankOrBreak (letter : Char) : Bool := isBlank letter || isBreak letter

def isWordLetter (letter : Char) : Bool :=
  letter.isAlphanum || letter = '_' || letter = '-'

/-- The letters that a text may hold: no control characters but tab and line
breaks. -/
def isAllowed (letter : Char) : Bool :=
  let code := letter.toNat
  code = 0x09 || code = 0x0A || code = 0x0D || (0x20 ≤ code && code ≤ 0x7E) || code = 0x85
    || (0xA0 ≤ code && code ≤ 0xD7FF) || (0xE000 ≤ code && code ≤ 0xFFFD) || 0x10000 ≤ code

/-- Every common line break becomes a line feed. The separators of lines and
paragraphs stay as they are. -/
def normalize (letters : List Char) : List Char :=
  go #[] letters
where
  go (done : Array Char) : List Char → List Char
    | [] => done.toList
    | '\r' :: '\n' :: rest => go (done.push '\n') rest
    | '\r' :: rest => go (done.push '\n') rest
    | '\u0085' :: rest => go (done.push '\n') rest
    | letter :: rest => go (done.push letter) rest

structure Place where
  line : Nat := 0
  column : Nat := 0
deriving DecidableEq, Repr

structure Source where
  place : Place := {}
  rest : List Char
  left : Nat
deriving Repr

def Place.after (place : Place) (letter : Char) : Place :=
  if isBreak letter then ⟨place.line + 1, 0⟩ else ⟨place.line, place.column + 1⟩

namespace Source

def ofLetters (letters : List Char) : Source := { rest := letters, left := letters.length }

def skip (source : Source) : Source :=
  match source.rest with
  | [] => source
  | letter :: rest => ⟨source.place.after letter, rest, source.left - 1⟩

def skipMany : (count : Nat) → Source → Source
  | 0, source => source
  | count + 1, source => skipMany count source.skip

def span (source : Source) (test : Char → Bool) : List Char × Source :=
  go #[] source.place source.left source.rest
where
  go (taken : Array Char) (place : Place) (left : Nat) : List Char → List Char × Source
    | [] => (taken.toList, ⟨place, [], left⟩)
    | letter :: rest =>
        if test letter then go (taken.push letter) (place.after letter) (left - 1) rest
        else (taken.toList, ⟨place, letter :: rest, left⟩)

def skipWhile (source : Source) (test : Char → Bool) : Source := (source.span test).2

def head? (source : Source) : Option Char := source.rest.head?

def at? (source : Source) (letter : Char) : Bool := source.rest.head? == some letter

/-- Whether a blank, a break or the end stands `offset` letters on. -/
def endsWordAt (source : Source) (offset : Nat) : Bool :=
  (source.rest[offset]?).all isBlankOrBreak

def atMarker (source : Source) (mark : Char) : Bool :=
  source.place.column = 0 && source.rest.take 3 == [mark, mark, mark] && source.endsWordAt 3

def atDocumentMarker (source : Source) : Bool := source.atMarker '-' || source.atMarker '.'

end Source

/-- A reader of source text; `none` finds it ill-formed. -/
abbrev Scan := StateT Source Option

namespace Scan

def fail {Result : Type} : Scan Result := fun _ => none

def skip : Scan Unit := modify Source.skip

def span (test : Char → Bool) : Scan (List Char) := fun source => some (source.span test)

def require (condition : Bool) : Scan Unit := if condition then pure () else fail

def next : Scan Char := do
  let some letter := (← get).head? | fail
  skip
  return letter

def expect (letter : Char) : Scan Unit := do
  require ((← get).at? letter)
  skip

/-- Repeat a round until it gives a result. A round that wants another one has to
take a letter. -/
def repeatFrom {State Result : Type} (state : State) (round : State → Scan (Sum State Result)) :
    Scan Result := fun source =>
  match round state source with
  | none => none
  | some (.inr result, next) => some (result, next)
  | some (.inl state, next) =>
      if next.left < source.left then repeatFrom state round next else none
termination_by source => source.left

end Scan

end SqlGate.Yaml
