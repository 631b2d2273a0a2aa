import SqlGate.Yaml.Meaning
import SqlGate.Yaml.Node

/-!
# Decoders

A `Decoder` reads a value of one type from a node. It tells where in the
document a value is of the wrong type. Aliases are followed, and a document that
follows them too often is refused.
-/

namespace SqlGate.Yaml

set_option autoImplicit false

/-! ## Places in a document -/

inductive PathStep where
  | field (name : String)
  | item (index : Nat)
  /-- The value of a key that is not written as a scalar. -/
  | unnamed
deriving DecidableEq, Repr

/-- The steps to a value, the last one first. -/
abbrev Path := List PathStep

def Path.text : Path → String
  | [] => ""
  | .item index :: outer => text outer ++ "[" ++ toString index ++ "]"
  | .field name :: outer => owner (text outer) ++ name
  | .unnamed :: outer => owner (text outer) ++ "?"
where
  owner (text : String) : String := if text.isEmpty then "" else text ++ "."

/-! ## Errors -/

inductive DecodeCause where
  | wrongType (found expected : String)
  | wrongValue (found expected : String)
  | missingField (name : String)
  | duplicateField (name : String)
deriving DecidableEq, Repr

inductive DecodeError where
  | located (path : Path) (cause : DecodeCause)
  | tooManyAliases
deriving DecidableEq, Repr

def DecodeCause.message : DecodeCause → String
  | wrongType found expected => "invalid type: " ++ found ++ ", expected " ++ expected
  | wrongValue found expected => "invalid value: " ++ found ++ ", expected " ++ expected
  | missingField name => "missing field `" ++ name ++ "`"
  | duplicateField name => "duplicate field `" ++ name ++ "`"

def DecodeError.message : DecodeError → String
  | located [] cause => cause.message
  | located path cause => path.text ++ ": " ++ cause.message
  | tooManyAliases => "repetition limit exceeded"

/-! ## Decoding -/

/-- The state counts the aliases that were followed. -/
abbrev Decode := ReaderT Document (StateT Nat (Except DecodeError))

abbrev Decoder (Value : Type) := Path → Node → Decode Value

namespace Decode

def fail {Value : Type} (path : Path) (cause : DecodeCause) : Decode Value :=
  throw (.located path cause)

/-- How many aliases may be followed for each step of the document. -/
def aliasesPerStep : Nat := 100

def follow : Node → Decode Node
  | .aliasOf number => do
      let document ← read
      let followed := (← get) + 1
      if aliasesPerStep * document.extent < followed then throw .tooManyAliases
      set followed
      return (document.target? number).getD .absent
  | node => return node

def mismatch {Value : Type} (expected : String) : Decoder Value := fun path node =>
  match node with
  | .sequence _ => fail path (.wrongType "sequence" expected)
  | .mapping _ => fail path (.wrongType "map" expected)
  | .aliasOf _ => fail path (.wrongType Meaning.nothing.describe expected)
  | .scalar tag style words =>
      match meaning tag style words with
      | .ok found => fail path (.wrongType found.describe expected)
      | .error wanted => fail path (.wrongValue (Meaning.text words).describe wanted)

/-! ## Scalars -/

/-- Any scalar is text, as it is written. -/
def text (expected : String) : Decoder String := fun path node => do
  match ← follow node with
  | .scalar _ _ words => return words
  | other => mismatch expected path other

def string : Decoder String := text "a string"

/-- Whether a scalar may be more than text. -/
def isTyped (wanted : String) (tag : Option String) (style : Style) : Bool :=
  style = .plain || style = .literal && tag = some wanted

def boolean : Decoder Bool := fun path node => do
  let node ← follow node
  if let .scalar tag style words := node then
    if isTyped booleanTag tag style then
      if let some value := boolean? words then return value
  mismatch "a boolean" path node

/-- A whole number below a limit. Past 64 bits it is not even of the right type. -/
def number (limit : Nat) (expected : String) : Decoder Nat := fun path node => do
  let node ← follow node
  if let .scalar tag style words := node then
    if isTyped integerTag tag style then
      if let some value := (natural? words).filter (· < UInt64.size) then
        if value < limit then return value
        else fail path (.wrongValue (Meaning.integer value).describe expected)
  mismatch expected path node

def number16 (expected : String) : Decoder UInt16 := fun path node => do
  return UInt16.ofNat (← number UInt16.size expected path node)

def number64 (expected : String) : Decoder UInt64 := fun path node => do
  return UInt64.ofNat (← number UInt64.size expected path node)

/-! ## Collections -/

/-- A value that is left out stands for an empty collection. -/
def isLeftOut : Node → Bool
  | .scalar _ .plain "" => true
  | _ => false

def sequence {Item : Type} (item : Decoder Item) : Decoder (List Item) := fun path node => do
  match ← follow node with
  | .sequence nodes => nodes.zipIdx.mapM fun (node, index) => item (.item index :: path) node
  | other => if isLeftOut other then return [] else mismatch "a sequence" path other

structure Field where
  owner : Path
  name : String
  step : PathStep
  value : Node

def eachField {Fields : Type} (expected keyExpected : String)
    (visit : Fields → Field → Decode Fields) (start : Fields) : Decoder Fields :=
  fun path node => do
    match ← follow node with
    | .mapping entries =>
        entries.foldlM
          (fun fields (key, value) => do
            let step : PathStep :=
              match key with
              | .scalar _ _ words => .field words
              | _ => .unnamed
            let name ← text keyExpected path key
            visit fields { owner := path, name, step, value })
          start
    | other => if isLeftOut other then return start else mismatch expected path other

def Field.decode {Value : Type} (field : Field) (decoder : Decoder Value) : Decode Value :=
  decoder (field.step :: field.owner) field.value

def Field.once {Value : Type} (field : Field) (known : Option Value) (decoder : Decoder Value) :
    Decode (Option Value) := do
  if known.isSome then fail field.owner (.duplicateField field.name)
  return some (← field.decode decoder)

/-- The fields of a record. Those it does not know are skipped by `visit`. -/
def record {Fields : Type} (expected : String) (visit : Fields → Field → Decode Fields)
    (start : Fields) : Decoder Fields :=
  eachField expected "field identifier" visit start

def needed {Value : Type} (path : Path) (name : String) : Option Value → Decode Value
  | some value => return value
  | none => fail path (.missingField name)

end Decode

/-- A document that holds nothing has a root that is left out. -/
def Document.decode {Value : Type} (document : Document) (decoder : Decoder Value) :
    Except DecodeError Value := do
  let (value, _) ← ((decoder [] (document.root.getD .absent)).run document).run 0
  return value

end SqlGate.Yaml
