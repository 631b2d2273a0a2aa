import SqlGate.Text.Numeral
import SqlGate.Yaml.Source

/-!
# Scalars

The texts of a document: plain words, quoted text, and blocks. A text may run
over several lines; `Gap` is what lies between two of its pieces, and
`Gap.text` what the gap contributes.
-/

namespace SqlGate.Yaml

set_option autoImplicit false

inductive Style where
  | plain
  | quoted
  | literal
  | folded
deriving DecidableEq, Repr

/-- Blanks and line breaks between two pieces of text. Once a line is broken,
blanks no longer count. -/
structure Gap where
  broken : Bool := false
  blanks : Array Char := #[]
  first : Option Char := none
  later : Array Char := #[]

namespace Gap

/-- One line feed is folded into a space; further breaks are kept instead of it.
Other first breaks are kept as they are. -/
def text (gap : Gap) : Array Char :=
  if !gap.broken then gap.blanks
  else
    match gap.first with
    | some '\n' => if gap.later.isEmpty then #[' '] else gap.later
    | some other => #[other] ++ gap.later
    | none => gap.later

def addBreak (gap : Gap) (letter : Char) : Gap :=
  if gap.broken then { gap with later := gap.later.push letter }
  else { broken := true, first := some letter }

def addBlank (gap : Gap) (letter : Char) : Gap :=
  if gap.broken then gap else { gap with blanks := gap.blanks.push letter }

/-- Take blanks and breaks. A tab may not stand for the indentation of a line,
that is, before the given column. -/
def scan (indent : Nat) (gap : Gap) : Scan Gap :=
  Scan.repeatFrom gap fun gap => do
    let source ← get
    match source.head? with
    | none => return .inr gap
    | some letter =>
        if isBlank letter then
          Scan.require (!(gap.broken && letter = '\t' && source.place.column < indent))
          Scan.skip
          return .inl (gap.addBlank letter)
        else if isBreak letter then
          Scan.skip
          return .inl (gap.addBreak letter)
        else return .inr gap

end Gap

/-! ## Plain text -/

def isFlowMark (letter : Char) : Bool := [',', '[', ']', '{', '}'].contains letter

/-- The plain letters at the front of a line, and those behind them. Inside
brackets a colon before an indicator is ill-formed. -/
def plainPiece (inFlow : Bool) (piece : Array Char) :
    List Char → Option (Array Char)
  | [] => some piece
  | letter :: rest =>
      let following := rest.head?
      if isBlankOrBreak letter then some piece
      else if inFlow && letter = ':' && following.any (fun next => isFlowMark next || next = '?') then
        none
      else if letter = ':' && following.all isBlankOrBreak then some piece
      else if inFlow && isFlowMark letter then some piece
      else plainPiece inFlow (piece.push letter) rest

/-- Plain text ends before a comment, a document marker, and in a block before a
line that is indented too little. Also tells whether a line was broken behind
the text. -/
def plainText (inFlow : Bool) (indent : Nat) : Scan (Array Char × Bool) :=
  Scan.repeatFrom ((#[], {}) : Array Char × Gap) fun (text, gap) => do
    let source ← get
    if source.atDocumentMarker || source.at? '#' then return .inr (text, gap.broken)
    let some piece := plainPiece inFlow #[] source.rest | Scan.fail
    if piece.isEmpty then return .inr (text, gap.broken)
    set (source.skipMany piece.size)
    let text := text ++ gap.text ++ piece
    unless (← get).head?.any isBlankOrBreak do return .inr (text, false)
    let gap ← Gap.scan indent {}
    if !inFlow && (← get).place.column < indent then return .inr (text, gap.broken)
    return .inl (text, gap)

/-! ## Quoted text -/

def escapedCode (digits : Nat) : Scan Char := do
  let source ← get
  let some code := Numeral.ofDigits? 16 (source.rest.take digits) | Scan.fail
  Scan.require (digits ≤ source.rest.length && (code < 0xD800 || 0xDFFF < code)
    && code ≤ 0x10FFFF)
  set (source.skipMany digits)
  return Char.ofNat code

def escaped : Scan Char := do
  match ← Scan.next with
  | '0' => return '\x00'
  | 'a' => return '\x07'
  | 'b' => return '\x08'
  | 't' => return '\t'
  | '\t' => return '\t'
  | 'n' => return '\n'
  | 'v' => return '\x0b'
  | 'f' => return '\x0c'
  | 'r' => return '\r'
  | 'e' => return '\x1b'
  | ' ' => return ' '
  | '\"' => return '\"'
  | '/' => return '/'
  | '\\' => return '\\'
  | 'N' => return '\u0085'
  | '_' => return '\u00a0'
  | 'L' => return '\u2028'
  | 'P' => return '\u2029'
  | 'x' => escapedCode 2
  | 'u' => escapedCode 4
  | 'U' => escapedCode 8
  | _ => Scan.fail

inductive QuotedStop where
  | quote
  | blank
  /-- A backslash at the end of a line. -/
  | joined

/-- The text up to the closing quote, a blank or a break. In single quotes a
doubled quote stands for itself; in double quotes backslashes escape. -/
def quotedPiece (quote : Char) : Scan (Array Char × QuotedStop) :=
  Scan.repeatFrom #[] fun piece => do
    let source ← get
    match source.rest with
    | [] => Scan.fail
    | letter :: rest =>
        if isBlankOrBreak letter then return .inr (piece, .blank)
        else if letter = quote then
          if quote = '\'' && rest.head? == some '\'' then
            set (source.skipMany 2)
            return .inl (piece.push '\'')
          else return .inr (piece, .quote)
        else if quote = '\"' && letter = '\\' then
          if rest.head?.any isBreak then
            set (source.skipMany 2)
            return .inr (piece, .joined)
          else
            Scan.skip
            return .inl (piece.push (← escaped))
        else
          Scan.skip
          return .inl (piece.push letter)

/-- No line of the text may start with a document marker. -/
def quotedText (quote : Char) : Scan (Array Char) := do
  Scan.skip
  let text ← Scan.repeatFrom #[] fun text => do
    Scan.require (!(← get).atDocumentMarker)
    let (piece, stop) ← quotedPiece quote
    let text := text ++ piece
    match stop with
    | .quote => return .inr text
    | .blank => return .inl (text ++ (← Gap.scan 0 {}).text)
    | .joined => return .inl (text ++ (← Gap.scan 0 { broken := true }).text)
  Scan.skip
  return text

/-! ## Blocks -/

inductive Chomp where
  | strip
  | clip
  | keep
deriving DecidableEq

/-- The marks behind the one that opens a block: how the end is treated, and how
far the block is indented, in either order. -/
def blockMarks : Scan (Chomp × Option Nat) := do
  match ← chomp? with
  | some chomp => return (chomp, ← increment?)
  | none =>
      match ← increment? with
      | none => return (.clip, none)
      | some increment => return ((← chomp?).getD .clip, some increment)
where
  chomp? : Scan (Option Chomp) := do
    match (← get).head? with
    | some '+' => Scan.skip; return some .keep
    | some '-' => Scan.skip; return some .strip
    | _ => return none
  increment? : Scan (Option Nat) := do
    match (← get).head? with
    | some letter =>
        if letter.isDigit then
          Scan.require (letter != '0')
          Scan.skip
          return some (letter.toNat - '0'.toNat)
        else return none
    | none => return none

/-- Empty lines of a block, and how far they are indented at most. Without a
known indentation all spaces belong to it. -/
def emptyLines (indent : Option Nat) : Scan (Array Char × Nat) :=
  Scan.repeatFrom ((#[], 0) : Array Char × Nat) fun (breaks, widest) => do
    let source ← get
    let isIndentation (column : Nat) : Bool := indent.all (column < ·)
    let spaces := (source.rest.takeWhile (· = ' ')).length
    let taken :=
      match indent with
      | none => spaces
      | some width => min spaces (width - source.place.column)
    set (source.skipMany taken)
    let source ← get
    let widest := max widest source.place.column
    Scan.require (!(isIndentation source.place.column && source.at? '\t'))
    match source.head? with
    | some letter =>
        if isBreak letter then
          Scan.skip
          return .inl (breaks.push letter, widest)
        else return .inr (breaks, widest)
    | none => return .inr (breaks, widest)

/-- The lines of a block so far: its text, the break that ended the last line,
the empty lines behind that, and whether the last line began with a blank. -/
structure BlockLines where
  text : Array Char := #[]
  lastBreak : Option Char := none
  empty : Array Char := #[]
  blankStart : Bool := false

/-- The line break before a new line is folded between two lines that do not
start with blanks. -/
def BlockLines.joined (lines : BlockLines) (folds startsBlank : Bool) : Array Char :=
  if folds && lines.lastBreak == some '\n' && !lines.blankStart && !startsBlank then
    if lines.empty.isEmpty then lines.text.push ' ' else lines.text ++ lines.empty
  else lines.text ++ lines.lastBreak.toArray ++ lines.empty

/-- The text of a block that opens here, inside a block with this indentation
(less than zero outside of all). -/
def blockText (style : Style) (parentIndent : Int) : Scan (Array Char) := do
  Scan.skip
  let (chomp, increment) ← blockMarks
  modify (·.skipWhile isBlank)
  if (← get).at? '#' then modify (·.skipWhile (!isBreak ·))
  match (← get).head? with
  | none => pure ()
  | some letter => Scan.require (isBreak letter); Scan.skip
  let given := increment.map fun width => parentIndent.toNat + width
  let (breaks, widest) ← emptyLines given
  let indent := given.getD (max widest (max (parentIndent + 1).toNat 1))
  let lines ← Scan.repeatFrom ({ empty := breaks } : BlockLines) fun lines => do
    let source ← get
    match source.head? with
    | none => return .inr lines
    | some first =>
        if source.place.column != indent then return .inr lines
        else
          let text := lines.joined (style = .folded) (isBlank first)
          let line ← Scan.span (!isBreak ·)
          let lastBreak := (← get).head?
          Scan.skip
          let (empty, _) ← emptyLines (some indent)
          return .inl
            { text := text ++ line.toArray, lastBreak, empty, blankStart := isBlank first }
  match chomp with
  | .strip => return lines.text
  | .clip => return lines.text ++ lines.lastBreak.toArray
  | .keep => return lines.text ++ lines.lastBreak.toArray ++ lines.empty

end SqlGate.Yaml
