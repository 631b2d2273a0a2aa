/-!
# Message templates

A template is text with slots. Slots are filled from left to right, and a
value that is put into a slot is never itself read as a template.
-/

namespace SqlGate

set_option autoImplicit false

inductive Template.Part where
  | text (words : String)
  | slot
deriving DecidableEq, Repr

abbrev Template := List Template.Part

namespace Template

/-- The template as written, with `%s` for a slot. -/
def pattern (template : Template) : String :=
  String.join (template.map fun
    | .text words => words
    | .slot => "%s")

/-- A slot without a value stays empty, and values left over are dropped. -/
def fill : Template → List String → String
  | [], _ => ""
  | .text words :: rest, values => words ++ fill rest values
  | .slot :: rest, [] => fill rest []
  | .slot :: rest, value :: values => value ++ fill rest values

end Template

end SqlGate
