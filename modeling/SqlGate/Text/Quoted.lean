import SqlGate.Text.Hex
import SqlGate.Text.Shapeless

/-!
# Quoted text

Text between double quotes, as messages and summaries show it. What would not
be seen, or would be read as part of the quoting, is escaped.
-/

namespace SqlGate.Quoted

set_option autoImplicit false

def letter : Char → String
  | '\x00' => "\\0"
  | '\t' => "\\t"
  | '\n' => "\\n"
  | '\r' => "\\r"
  | '\"' => "\\\""
  | '\\' => "\\\\"
  | plain =>
      if Shapeless.contains plain then "\\u\x7b" ++ Hex.ofNat plain.toNat ++ "\x7d"
      else plain.toString

def text (words : String) : String :=
  words.foldl (fun shown plain => shown ++ letter plain) "\"" ++ "\""

def list (opening closing : String) (items : List String) : String :=
  opening ++ ", ".intercalate (items.map text) ++ closing

end SqlGate.Quoted
