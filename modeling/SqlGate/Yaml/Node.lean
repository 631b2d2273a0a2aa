import SqlGate.Yaml.Lexer

/-!
# Documents

`Document.ofText?` reads a text with at most one document. An alias stays an
alias: it holds the number of its anchor, and the document knows the node that
the number stands for.
-/

namespace SqlGate.Yaml

set_option autoImplicit false

inductive Node where
  | scalar (tag : Option String) (style : Style) (text : String)
  | sequence (items : List Node)
  | mapping (entries : List (Node × Node))
  | aliasOf (number : Nat)

namespace Node

def absent : Node := scalar none .plain ""

mutual

/-- How many steps it takes to list the node: one for a scalar or an alias, and
two for the ends of a collection. -/
def extent : Node → Nat
  | scalar _ _ _ => 1
  | aliasOf _ => 1
  | sequence items => 2 + extentOfItems items
  | mapping entries => 2 + extentOfEntries entries

def extentOfItems : List Node → Nat
  | [] => 0
  | item :: rest => item.extent + extentOfItems rest

def extentOfEntries : List (Node × Node) → Nat
  | [] => 0
  | (key, value) :: rest => key.extent + value.extent + extentOfEntries rest

end

end Node

structure Document where
  /-- Nothing, if the text holds no document. -/
  root : Option Node := none
  anchored : List (Nat × Node) := []

def Document.target? (document : Document) (number : Nat) : Option Node :=
  document.anchored.lookup number

def Document.extent (document : Document) : Nat :=
  match document.root with
  | some root => root.extent
  | none => 1

structure Composer where
  tokens : List Token
  /-- What handles of tags stand for. -/
  expansions : List (String × String) := []
  numbers : List (String × Nat) := []
  marked : Nat := 0
  /-- Which anchored node a number stands for; the latest comes first. -/
  latest : List (Nat × Nat) := []
  nodes : List (Nat × Node) := []

abbrev Compose := StateT Composer Option

namespace Compose

def fail {Result : Type} : Compose Result := fun _ => none

def require (condition : Bool) : Compose Unit := if condition then pure () else fail

def peek? : Compose (Option Token) := do return (← get).tokens.head?

def skip : Compose Unit :=
  modify fun composer => { composer with tokens := composer.tokens.tail }

def isNext (tokens : List Token) : Compose Bool := do
  return (← peek?).any tokens.contains

def take? (token : Token) : Compose Bool := do
  if (← peek?) == some token then
    skip
    return true
  else return false

/-- An anchor and a tag, in either order, at most one of each. -/
structure Properties where
  anchor : Option String := none
  tag : Option (String × String) := none

def Properties.isEmpty (properties : Properties) : Bool :=
  properties.anchor.isNone && properties.tag.isNone

def properties : (limit : Nat) → Properties → Compose Properties
  | 0, known => return known
  | limit + 1, known => do
      match ← peek?, known.anchor, known.tag with
      | some (.anchor name), none, _ =>
          skip
          properties limit { known with anchor := some name }
      | some (.tag handle suffix), _, none =>
          skip
          properties limit { known with tag := some (handle, suffix) }
      | _, _, _ => return known

def fullTag : Option (String × String) → Compose (Option String)
  | none => return none
  | some (handle, suffix) => do
      if handle.isEmpty then return some suffix
      let some expansion := (← get).expansions.lookup handle | fail
      return some (expansion ++ suffix)

/-- Number an anchor. The number is that of the different names so far, so a name
that is used again can lead to one number for two nodes; the later one counts.
Gives back the place where its node is kept. -/
def number (anchor : String) : Compose Nat := do
  let composer ← get
  let number := composer.numbers.length
  set
    { composer with
      numbers := (anchor, number) :: composer.numbers.filter (·.1 != anchor)
      marked := composer.marked + 1
      latest := (number, composer.marked) :: composer.latest }
  return composer.marked

def keep (place : Nat) (node : Node) : Compose Unit :=
  modify fun composer => { composer with nodes := (place, node) :: composer.nodes }

mutual

/-- Block collections and blocks without indentation are read only where they are allowed. -/
def node (inBlock unindented : Bool) : Nat → Compose Node
  | 0 => fail
  | limit + 1 => do
      if let some (.aliasOf name) ← peek? then
        skip
        let some found := (← get).numbers.lookup name | fail
        return .aliasOf found
      let known ← properties 2 {}
      let tag ← fullTag known.tag
      let place ← known.anchor.mapM number
      let found ← content inBlock unindented known tag limit
      if let some place := place then keep place found
      return found

def content (inBlock unindented : Bool) (known : Properties) (tag : Option String) :
    Nat → Compose Node
  | 0 => fail
  | limit + 1 => do
      match ← peek? with
      | some (.scalar style text) =>
          skip
          return .scalar (tag.filter (· != "!")) style text
      | some .blockEntry =>
          if unindented then unindentedSequence [] limit
          else leftOut
      | some .flowSequenceStart => skip; flowSequence true [] limit
      | some .flowMappingStart => skip; flowMapping true [] limit
      | some .blockSequenceStart =>
          if inBlock then skip; blockSequence [] limit
          else leftOut
      | some .blockMappingStart =>
          if inBlock then skip; blockMapping [] limit
          else leftOut
      | _ => leftOut
where
  /-- Only a node with properties may be left out here. -/
  leftOut : Compose Node := do
    require !known.isEmpty
    return .scalar tag .plain ""

def nodeUnless (tokens : List Token) (inBlock unindented : Bool) : Nat → Compose Node
  | 0 => fail
  | limit + 1 => do
      if ← isNext tokens then return .absent
      node inBlock unindented limit

def blockSequence (items : List Node) : Nat → Compose Node
  | 0 => fail
  | limit + 1 => do
      if ← take? .blockEntry then
        let item ← nodeUnless [.blockEntry, .blockEnd] true false limit
        blockSequence (item :: items) limit
      else
        require (← take? .blockEnd)
        return .sequence items.reverse

/-- The items of a sequence that is indented like the key it belongs to. -/
def unindentedSequence (items : List Node) : Nat → Compose Node
  | 0 => fail
  | limit + 1 => do
      if ← take? .blockEntry then
        let item ← nodeUnless [.blockEntry, .key, .value, .blockEnd] true false limit
        unindentedSequence (item :: items) limit
      else return .sequence items.reverse

def blockMapping (entries : List (Node × Node)) : Nat → Compose Node
  | 0 => fail
  | limit + 1 => do
      if ← take? .key then
        let key ← nodeUnless [.key, .value, .blockEnd] true true limit
        let value ←
          if ← take? .value then nodeUnless [.key, .value, .blockEnd] true true limit
          else pure .absent
        blockMapping ((key, value) :: entries) limit
      else
        require (← take? .blockEnd)
        return .mapping entries.reverse

/-- The items between square brackets. An item may be a single entry of a
mapping; where its key is left out, the token in its place is lost. -/
def flowSequence (first : Bool) (items : List Node) : Nat → Compose Node
  | 0 => fail
  | limit + 1 => do
      if ← take? .flowSequenceEnd then return .sequence items.reverse
      unless first do require (← take? .flowEntry)
      if ← take? .flowSequenceEnd then return .sequence items.reverse
      if ← take? .key then
        let key ←
          if ← isNext [.value, .flowEntry, .flowSequenceEnd] then
            skip
            pure .absent
          else node false false limit
        let value ←
          if ← take? .value then nodeUnless [.flowEntry, .flowSequenceEnd] false false limit
          else pure .absent
        flowSequence false (.mapping [(key, value)] :: items) limit
      else
        let item ← node false false limit
        flowSequence false (item :: items) limit

def flowMapping (first : Bool) (entries : List (Node × Node)) : Nat → Compose Node
  | 0 => fail
  | limit + 1 => do
      if ← take? .flowMappingEnd then return .mapping entries.reverse
      unless first do require (← take? .flowEntry)
      if ← take? .flowMappingEnd then return .mapping entries.reverse
      if ← take? .key then
        let key ← nodeUnless [.value, .flowEntry, .flowMappingEnd] false false limit
        let value ←
          if ← take? .value then nodeUnless [.flowEntry, .flowMappingEnd] false false limit
          else pure .absent
        flowMapping false ((key, value) :: entries) limit
      else
        let key ← node false false limit
        flowMapping false ((key, .absent) :: entries) limit

end

def standardExpansions : List (String × String) :=
  [("!", "!"), ("!!", "tag:yaml.org,2002:")]

/-- The directives at the front of a document: at most one version, which must be
1.1 or 1.2, and at most one definition of each handle. Tells whether there was
any. -/
def directives (hasVersion : Bool) (defined : List (String × String)) :
    Nat → Compose Bool
  | 0 => fail
  | limit + 1 => do
      match ← peek? with
      | some (.versionDirective major minor) =>
          require (!hasVersion && major = 1 && (minor = 1 || minor = 2))
          skip
          directives true defined limit
      | some (.tagDirective handle expansion) =>
          require (defined.lookup handle).isNone
          skip
          directives hasVersion ((handle, expansion) :: defined) limit
      | _ =>
          modify fun composer => { composer with expansions := defined ++ standardExpansions }
          return hasVersion || !defined.isEmpty

def isDocumentEmpty : Compose Bool := do
  match ← peek? with
  | none => return true
  | some (.versionDirective _ _) => return true
  | some (.tagDirective _ _) => return true
  | some token => return token == .documentStart || token == .documentEnd

def documentEnds : Nat → Compose Unit
  | 0 => return ()
  | limit + 1 => do
      if ← take? .documentEnd then documentEnds limit

/-- The only document. After it nothing may follow. -/
def document (limit : Nat) : Compose (Option Node) := do
  if (← peek?).isNone then return none
  let directed ← directives false [] limit
  let marked ← take? .documentStart
  require (marked || !directed)
  let root ← if marked && (← isDocumentEmpty) then pure .absent else node true false limit
  documentEnds limit
  require (← peek?).isNone
  return some root

end Compose

/-- The document of a text; nothing for a text that is ill-formed, names an
unknown anchor or holds a second document. -/
def Document.ofText? (text : String) : Option Document := do
  let tokens ← tokens? text
  let (root, composer) ← (Compose.document (4 * tokens.length + 8)).run { tokens }
  let anchored := composer.latest.filterMap fun (number, place) =>
    (composer.nodes.lookup place).map fun node => (number, node)
  return { root, anchored }

end SqlGate.Yaml
