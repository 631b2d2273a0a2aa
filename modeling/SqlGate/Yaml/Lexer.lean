import SqlGate.Yaml.Token

/-!
# Layout

`tokens?` turns a text into tokens. Indentation opens and closes blocks. A key
that is not announced shows itself by the colon behind it; the place where one
may start is remembered until then.
-/

namespace SqlGate.Yaml

set_option autoImplicit false

structure KeyStart where
  /-- A block mapping needs a key here. -/
  required : Bool
  /-- How many tokens were known. -/
  token : Nat
  place : Place

structure Lexer where
  source : Source
  /-- The indentation of the innermost block, less than zero outside of all. -/
  indent : Int := -1
  outerIndents : List Int := []
  /-- Where a key may have started between the innermost brackets. -/
  keyStart : Option KeyStart := none
  /-- The same for all brackets around them. -/
  outerKeyStarts : List (Option KeyStart) := []
  keyAllowed : Bool := true
  tokens : Array Token := #[]

abbrev Lex := StateT Lexer Option

namespace Lexer

def inFlow (lexer : Lexer) : Bool := !lexer.outerKeyStarts.isEmpty

def column (lexer : Lexer) : Nat := lexer.source.place.column

def push (lexer : Lexer) (token : Token) : Lexer :=
  { lexer with tokens := lexer.tokens.push token }

/-- Open a block at a column, if that is deeper than the innermost one. Its token
goes to the given position. -/
def openBlock (lexer : Lexer) (column : Nat) (position : Nat) (token : Token) : Lexer :=
  if lexer.inFlow || !(lexer.indent < column) then lexer
  else
    { lexer with
      indent := column
      outerIndents := lexer.indent :: lexer.outerIndents
      tokens := lexer.tokens.insertIdxIfInBounds position token }

def closeBlocks (lexer : Lexer) (column : Int) : Lexer :=
  if lexer.inFlow || lexer.indent ≤ column then lexer
  else
    let indents := lexer.indent :: lexer.outerIndents
    let closed := indents.takeWhile (column < ·)
    let left := indents.dropWhile (column < ·)
    { lexer with
      indent := left.headD (-1)
      outerIndents := left.tail
      tokens := lexer.tokens ++ (closed.map fun _ => Token.blockEnd).toArray }

def insertKey (lexer : Lexer) (start : KeyStart) : Lexer :=
  openBlock { lexer with tokens := lexer.tokens.insertIdxIfInBounds start.token .key }
    start.place.column start.token .blockMappingStart

/-- Whether a key that started there can still end here: a key stays on one line
and within 1024 letters. -/
def reaches (lexer : Lexer) (start : KeyStart) : Bool :=
  lexer.source.place.line ≤ start.place.line && lexer.column ≤ start.place.column + 1024

end Lexer

namespace Lex

def fail {Result : Type} : Lex Result := fun _ => none

def require (condition : Bool) : Lex Unit := if condition then pure () else fail

def scan {Result : Type} (reader : Scan Result) : Lex Result := fun lexer => do
  let (result, source) ← reader lexer.source
  return (result, { lexer with source })

/-- A key that is required must not be forgotten. -/
def forgetKey : Lex Unit := do
  let lexer ← get
  require (!lexer.keyStart.any (·.required))
  set { lexer with keyStart := none }

def rememberKey : Lex Unit := do
  if (← get).keyAllowed then
    forgetKey
    modify fun lexer =>
      { lexer with
        keyStart := some
          { required := !lexer.inFlow && lexer.indent = lexer.column
            token := lexer.tokens.size
            place := lexer.source.place } }

/-- The place where the key before a colon started. One that is out of reach does
not count, unless it is required. -/
def takeKeyStart : Lex (Option KeyStart) := do
  let lexer ← get
  let start := lexer.keyStart.filter lexer.reaches
  require (start.isSome || !lexer.keyStart.any (·.required))
  modify fun lexer => { lexer with keyStart := none }
  return start

def allowKey (allowed : Bool) : Lex Unit :=
  modify fun lexer => { lexer with keyAllowed := allowed }

def emit (token : Token) : Lex Unit := modify (·.push token)

def emitMark (letters : Nat) (token : Token) : Lex Unit := do
  scan (modify (·.skipMany letters))
  emit token

/-- A tab may not stand where a key could. -/
def skipToToken : Lex Unit := do
  let lexer ← get
  let (source, keyAllowed) ← go lexer.inFlow (lexer.source.left + 1) lexer.source
    lexer.keyAllowed
  set { lexer with source, keyAllowed }
where
  go (inFlow : Bool) : Nat → Source → Bool → Lex (Source × Bool)
    | 0, _, _ => fail
    | limit + 1, source, keyAllowed => do
        let source := source.skipWhile fun letter =>
          letter = ' ' || (inFlow || !keyAllowed) && letter = '\t'
        let source := if source.at? '#' then source.skipWhile (!isBreak ·) else source
        if source.head?.any isBreak then go inFlow limit source.skip (keyAllowed || !inFlow)
        else return (source, keyAllowed)

def outsideBlocks (token : Lex Token) : Lex Unit := do
  modify (·.closeBlocks (-1))
  forgetKey
  allowKey false
  emit (← token)

def flowStart (token : Token) : Lex Unit := do
  rememberKey
  modify fun lexer =>
    { lexer with
      keyStart := none
      outerKeyStarts := lexer.keyStart :: lexer.outerKeyStarts }
  allowKey true
  emitMark 1 token

/-- A closing bracket without an opening one closes nothing. -/
def flowEnd (token : Token) : Lex Unit := do
  forgetKey
  modify fun lexer =>
    match lexer.outerKeyStarts with
    | [] => lexer
    | keyStart :: outerKeyStarts => { lexer with keyStart, outerKeyStarts }
  allowKey false
  emitMark 1 token

def flowEntry : Lex Unit := do
  forgetKey
  allowKey true
  emitMark 1 .flowEntry

/-- In a block, a mark that may open a block must stand where a key may. -/
def openBlockHere (token : Token) : Lex Unit := do
  let lexer ← get
  unless lexer.inFlow do
    require lexer.keyAllowed
    modify fun lexer => lexer.openBlock lexer.column lexer.tokens.size token

def blockEntry : Lex Unit := do
  openBlockHere .blockSequenceStart
  forgetKey
  allowKey true
  emitMark 1 .blockEntry

def key : Lex Unit := do
  openBlockHere .blockMappingStart
  forgetKey
  allowKey (!(← get).inFlow)
  emitMark 1 .key

/-- If a key may have started before the colon, the tokens since then are that key. -/
def value : Lex Unit := do
  match ← takeKeyStart with
  | some start =>
      modify (·.insertKey start)
      allowKey false
  | none =>
      openBlockHere .blockMappingStart
      allowKey (!(← get).inFlow)
  emitMark 1 .value

def word (token : Scan Token) : Lex Unit := do
  rememberKey
  allowKey false
  emit (← scan token)

def block (style : Style) : Lex Unit := do
  forgetKey
  allowKey true
  let text ← scan (blockText style (← get).indent)
  emit (.scalar style (String.ofList text.toList))

def plain : Lex Unit := do
  rememberKey
  allowKey false
  let lexer ← get
  let (text, broken) ← scan (plainText lexer.inFlow (lexer.indent + 1).toNat)
  if broken then allowKey true
  emit (.scalar .plain (String.ofList text.toList))

def isIndicator (letter : Char) : Bool :=
  ['-', '?', ':', ',', '[', ']', '{', '}', '#', '&', '*', '!', '|', '>', '\'', '\"', '%', '@',
    '\x60'].contains letter

/-- Whether plain text starts with this letter: with neither a blank nor an
indicator, or with an indicator that a letter follows. -/
def startsPlain (lexer : Lexer) (letter : Char) : Bool :=
  let source := lexer.source
  if letter = '-' then !(source.rest[1]?).any isBlank
  else if letter = '?' || letter = ':' then !lexer.inFlow && !source.endsWordAt 1
  else !isBlank letter && !isIndicator letter

def token (letter : Char) : Lex Unit := do
  let lexer ← get
  let source := lexer.source
  let quoted : Scan Token := do
    return .scalar .quoted (String.ofList (← quotedText letter).toList)
  if source.place.column = 0 && letter = '%' then outsideBlocks (scan directive)
  else if source.atMarker '-' then
    outsideBlocks do scan (modify (·.skipMany 3)); return .documentStart
  else if source.atMarker '.' then
    outsideBlocks do scan (modify (·.skipMany 3)); return .documentEnd
  else if letter = '[' then flowStart .flowSequenceStart
  else if letter = '{' then flowStart .flowMappingStart
  else if letter = ']' then flowEnd .flowSequenceEnd
  else if letter = '}' then flowEnd .flowMappingEnd
  else if letter = ',' then flowEntry
  else if letter = '-' && source.endsWordAt 1 then blockEntry
  else if letter = '?' && (lexer.inFlow || source.endsWordAt 1) then key
  else if letter = ':' && (lexer.inFlow || source.endsWordAt 1) then value
  else if letter = '*' then word (do return .aliasOf (← anchorName))
  else if letter = '&' then word (do return .anchor (← anchorName))
  else if letter = '!' then word (tag lexer.inFlow)
  else if letter = '|' && !lexer.inFlow then block .literal
  else if letter = '>' && !lexer.inFlow then block .folded
  else if letter = '\'' || letter = '\"' then word quoted
  else if startsPlain lexer letter then plain
  else fail

/-- Every round reads a token or ends the text, so the letters bound the rounds. -/
def all : Nat → Lex Unit
  | 0 => fail
  | limit + 1 => do
      skipToToken
      match (← get).source.head? with
      | none =>
          modify (·.closeBlocks (-1))
          forgetKey
      | some letter =>
          modify fun lexer => lexer.closeBlocks lexer.column
          token letter
          all limit

end Lex

/-- The tokens of a text, if its letters are allowed and its layout is sound. A
byte-order mark may come first. -/
def tokens? (text : String) : Option (List Token) := do
  let letters := text.toList
  guard (letters.all isAllowed)
  let source := Source.ofLetters (normalize letters)
  let source := if source.at? '\uFEFF' then source.skip else source
  let ((), lexer) ← (Lex.all (letters.length + 1)).run { source }
  return lexer.tokens.toList

end SqlGate.Yaml
