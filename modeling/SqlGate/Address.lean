import SqlGate.Text.Hex
import SqlGate.Text.Numeral

/-!
# Network addresses

The client's address, read from the text of a socket address and written the
way refusals show it: without a port, and for version 6 with the first of the
longest runs of two or more zero groups left out.
-/

namespace SqlGate

set_option autoImplicit false

inductive IpAddress where
  | v4 (octets : List UInt8)
  | v6 (groups : List UInt16)
deriving DecidableEq, Repr

namespace IpAddress

def dotted (octets : List UInt8) : String :=
  ".".intercalate (octets.map fun octet => toString octet.toNat)

def colons (groups : List UInt16) : String :=
  ":".intercalate (groups.map fun group => Hex.ofNat group.toNat)

def octetsOf (group : UInt16) : List UInt8 := [(group >>> 8).toUInt8, group.toUInt8]

def leadingZeros (groups : List UInt16) : Nat := (groups.takeWhile (· = 0)).length

/-- Where the first of the longest runs of zero groups starts, and its length. -/
def longestZeros (groups : List UInt16) : Nat × Nat :=
  (List.range groups.length).foldl
    (fun (start, length) place =>
      let run := leadingZeros (groups.drop place)
      if length < run then (place, run) else (start, length))
    (0, 0)

def text : IpAddress → String
  | v4 octets => dotted octets
  | v6 [0, 0, 0, 0, 0, 0xFFFF, high, low] =>
      "::ffff:" ++ dotted (octetsOf high ++ octetsOf low)
  | v6 groups =>
      let (start, length) := longestZeros groups
      if length < 2 then colons groups
      else colons (groups.take start) ++ "::" ++ colons (groups.drop (start + length))

def splitAt (mark : Char) (letters : List Char) : List (List Char) :=
  letters.foldr
    (fun letter pieces =>
      if letter = mark then [] :: pieces
      else match pieces with
        | [] => [[letter]]
        | piece :: rest => (letter :: piece) :: rest)
    [[]]

/-- Four decimal numbers without leading zeros. -/
def octets? (letters : List Char) : Option (List UInt8) := do
  let pieces := splitAt '.' letters
  guard (pieces.length = 4)
  pieces.mapM fun digits => do
    guard (digits.length = 1 || digits.head? ≠ some '0')
    let value ← Numeral.ofDigits? 10 digits
    guard (value < 256)
    return UInt8.ofNat value

/-- Groups between colons; the last may be a version 4 address, which counts
for two. No letters at all are no groups. -/
def groups? (letters : List Char) : Option (List UInt16) := do
  if letters.isEmpty then return []
  let pieces := splitAt ':' letters
  let front ← pieces.dropLast.mapM group?
  let last := pieces.getLastD []
  match octets? last with
  | some [a, b, c, d] =>
      return front ++ [a.toUInt16 <<< 8 ||| b.toUInt16, c.toUInt16 <<< 8 ||| d.toUInt16]
  | _ => return front ++ [← group? last]
where
  group? (digits : List Char) : Option UInt16 := do
    guard (digits.length ≤ 4)
    return UInt16.ofNat (← Numeral.ofDigits? 16 digits)

def splitDouble? : List Char → Option (List Char × List Char)
  | ':' :: ':' :: rest => some ([], rest)
  | letter :: rest => (splitDouble? rest).map fun (front, back) => (letter :: front, back)
  | [] => none

/-- Eight groups, or fewer around one double colon. -/
def v6? (letters : List Char) : Option IpAddress :=
  match splitDouble? letters with
  | none => do
      let groups ← groups? letters
      guard (groups.length = 8)
      return v6 groups
  | some (front, back) => do
      let front ← groups? front
      let back ← groups? back
      guard (front.length + back.length ≤ 7)
      return v6 (front ++ List.replicate (8 - front.length - back.length) 0 ++ back)

/-- The host of a socket address: a version 6 address stands in brackets and
may name a zone, and a port follows. -/
def ofSocket? (socket : String) : Option IpAddress :=
  match socket.toList with
  | '[' :: letters => v6? ((letters.takeWhile (· ≠ ']')).takeWhile (· ≠ '%'))
  | letters => (octets? (letters.takeWhile (· ≠ ':'))).map v4

end IpAddress

end SqlGate
