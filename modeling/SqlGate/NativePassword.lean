import SqlGate.Hash.Sha1
import SqlGate.Packet.Greeting

/-!
# Native passwords

A client proves that it knows a password by a response to the scramble. The
response hides the password's hash behind a token that depends on the scramble
and on the hash of the hash.
-/

namespace SqlGate.NativePassword

set_option autoImplicit false

def xor (left right : Bytes) : Bytes := List.zipWith (· ^^^ ·) left right

def hash (password : String) : Bytes := (Sha1.digest (Utf8.encode password)).toList

/-- What hides the hash in a response. -/
def token (scramble hash : Bytes) : Bytes :=
  (Sha1.digest (scramble ++ (Sha1.digest hash).toList)).toList

def response (password : String) (scramble : Bytes) : Bytes :=
  if password.isEmpty then [] else xor (hash password) (token scramble (hash password))

/-- Nothing answers an empty scramble, and an empty response proves nothing. -/
def verifies (password : String) (scramble answer : Bytes) : Bool :=
  !scramble.isEmpty && !answer.isEmpty && response password scramble == answer

/-- A byte of a scramble for any number: neither 0x00, which would end it
early, nor 0xFF, which begins an error. -/
def scrambleByte (draw : Nat) : UInt8 := UInt8.ofNat (draw % 254 + 1)

theorem scrambleByte_ne (draw : Nat) :
    scrambleByte draw ≠ 0x00 ∧ scrambleByte draw ≠ 0xFF := by
  have value : (scrambleByte draw).toNat = draw % 254 + 1 := by
    simp only [scrambleByte, UInt8.toNat_ofNat']
    omega
  constructor
  · intro zero
    simp [zero] at value
  · intro top
    simp [top] at value
    omega

def randomBytes {Source : Type} [RandomGen Source] : (count : Nat) → Source → Bytes × Source
  | 0, source => ([], source)
  | count + 1, source =>
      let (draw, source) := randNat source 0 253
      let (rest, source) := randomBytes count source
      (scrambleByte draw :: rest, source)

theorem length_randomBytes
    {Source : Type}
    [RandomGen Source]
    (count : Nat)
    (source : Source) :
    (randomBytes count source).1.length = count := by
  induction count generalizing source with
  | zero => rfl
  | succ count ih => simp [randomBytes, ih]

def randomScramble {Source : Type} [RandomGen Source] (source : Source) : Scramble × Source :=
  (⟨(randomBytes 20 source).1, length_randomBytes 20 source⟩, (randomBytes 20 source).2)

end SqlGate.NativePassword
