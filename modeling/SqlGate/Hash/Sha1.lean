import SqlGate.Bytes

/-!
# SHA-1

The 160-bit hash that password responses are made of. A message is padded to
blocks of 64 bytes; each block stirs a state of five words through 80 rounds.
-/

namespace SqlGate.Sha1

set_option autoImplicit false

structure State where
  a : UInt32
  b : UInt32
  c : UInt32
  d : UInt32
  e : UInt32

def initial : State := ⟨0x67452301, 0xEFCDAB89, 0x98BADCFE, 0x10325476, 0xC3D2E1F0⟩

def rotateLeft (word amount : UInt32) : UInt32 := word <<< amount ||| word >>> (32 - amount)

/-- Sixteen big-endian words for a block of 64 bytes. -/
def words : Bytes → List UInt32
  | b0 :: b1 :: b2 :: b3 :: rest =>
      (b0.toUInt32 <<< 24 ||| b1.toUInt32 <<< 16 ||| b2.toUInt32 <<< 8 ||| b3.toUInt32)
        :: words rest
  | _ => []

def wordBytes (word : UInt32) : Bytes :=
  [(word >>> 24).toUInt8, (word >>> 16).toUInt8, (word >>> 8).toUInt8, word.toUInt8]

/-- The words of the rounds after those already known, each from the sixteen
before it. -/
def schedule : (count : Nat) → Array UInt32 → Array UInt32
  | 0, known => known
  | count + 1, known =>
      let back (distance : Nat) : UInt32 := known.getD (known.size - distance) 0
      schedule count (known.push (rotateLeft (back 3 ^^^ back 8 ^^^ back 14 ^^^ back 16) 1))

def mix (round : Nat) (b c d : UInt32) : UInt32 × UInt32 :=
  if round < 20 then (b &&& c ||| ~~~b &&& d, 0x5A827999)
  else if round < 40 then (b ^^^ c ^^^ d, 0x6ED9EBA1)
  else if round < 60 then (b &&& c ||| b &&& d ||| c &&& d, 0x8F1BBCDC)
  else (b ^^^ c ^^^ d, 0xCA62C1D6)

def step (state : State) (round : Nat) (word : UInt32) : State :=
  let (mixed, constant) := mix round state.b state.c state.d
  { a := rotateLeft state.a 5 + mixed + state.e + constant + word
    b := state.a
    c := rotateLeft state.b 30
    d := state.c
    e := state.d }

def compress (state : State) (block : Bytes) : State :=
  let rounds := (schedule 64 (words block).toArray).toList
  let stirred := rounds.zipIdx.foldl (fun current (word, round) => step current round word) state
  ⟨state.a + stirred.a, state.b + stirred.b, state.c + stirred.c, state.d + stirred.d,
    state.e + stirred.e⟩

def absorb : (blocks : Nat) → State → Bytes → State
  | 0, state, _ => state
  | blocks + 1, state, bytes => absorb blocks (compress state (bytes.take 64)) (bytes.drop 64)

/-- A one bit, zeros, and the length in bits fill the last block. -/
def padding (length : Nat) : Bytes :=
  0x80 :: List.replicate ((119 - length % 64) % 64) 0 ++ (Bytes.ofNatLE 8 (8 * length)).reverse

def digest (message : Bytes) : FixedBytes 20 :=
  let padded := message ++ padding message.length
  let final := absorb (padded.length / 64) initial padded
  ⟨wordBytes final.a ++ wordBytes final.b ++ wordBytes final.c ++ wordBytes final.d
      ++ wordBytes final.e, rfl⟩

end SqlGate.Sha1
