import SqlGate.Text.Utf8

/-!
# Environments

The variables of the process, and the ways a value can refer to one.
-/

namespace SqlGate

set_option autoImplicit false

abbrev Environment := String → Option String

namespace Environment

/-- The environment of entries that each hold a name, an equals sign and a value.
A value that is not UTF-8 counts as unset. -/
def ofEntries (entries : List Bytes) : Environment := fun name =>
  let front := Utf8.encode name ++ [0x3D]
  if name.isEmpty then none
  else
    (entries.find? front.isPrefixOf).bind fun entry => Utf8.decode? (entry.drop front.length)

end Environment

def startsBraced (text : String) : Bool :=
  match text.toList with
  | '$' :: '\x7b' :: _ => true
  | _ => false

/-- The variable that a text refers to. In braces it may have any name; without
closing braces there are no spaces in the text, and more than the dollar sign. -/
def reference? (text : String) : Option String :=
  match text.toList with
  | '$' :: '\x7b' :: rest =>
      if rest.getLast? = some '\x7d' then some (String.ofList rest.dropLast)
      else bare? ('\x7b' :: rest)
  | '$' :: rest => bare? rest
  | _ => none
where
  bare? (name : List Char) : Option String :=
    if name.isEmpty || name.contains ' ' then none else some (String.ofList name)

def Environment.expand (environment : Environment) (text : String) : String :=
  ((reference? text).bind environment).getD text

end SqlGate
