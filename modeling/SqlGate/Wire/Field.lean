import SqlGate.Bytes

/-!
# Writing a packet

The written forms of the fields that `Reader` takes apart.
-/

namespace SqlGate.Field

set_option autoImplicit false

/-- A number in the shortest of its forms; 251 to 255 mark the longer ones. -/
def lengthEncoded (value : UInt64) : Bytes :=
  if value < 251 then [value.toUInt8]
  else if value < 65536 then 0xFC :: Bytes.ofNatLE 2 value.toNat
  else if value < 16777216 then 0xFD :: Bytes.ofNatLE 3 value.toNat
  else 0xFE :: Bytes.ofNatLE 8 value.toNat

def zeroTerminated (bytes : Bytes) : Bytes := bytes ++ [0]

def lengthPrefixed (bytes : Bytes) : Bytes :=
  lengthEncoded (UInt64.ofNat bytes.length) ++ bytes

end SqlGate.Field
