import SqlGate.Bytes
import SqlGate.Wire.Error

/-!
# Frames

A stream carries packets as frames: three bytes of payload length, one byte of
sequence number, then the payload. `read?_bytes` says that a written frame is
read back from the front of any stream.
-/

namespace SqlGate

set_option autoImplicit false

structure Frame where
  sequence : UInt8
  payload : Bytes
deriving DecidableEq, Repr

namespace Frame

def maxPayload : Nat := 0xFFFFFF

/-- The frame's bytes, without a check of the payload's length. -/
def bytes (frame : Frame) : Bytes :=
  Bytes.ofNatLE 3 frame.payload.length ++ frame.sequence :: frame.payload

/-- A payload that does not fit is refused before anything is written. -/
def encode (frame : Frame) : Except WireError Bytes :=
  if frame.payload.length ≤ maxPayload then .ok frame.bytes
  else .error (.oversized frame.payload.length)

def read? : Bytes → Option (Frame × Bytes)
  | low :: middle :: high :: sequence :: rest =>
      let length := Bytes.toNatLE [low, middle, high]
      let (payload, after) := rest.splitAt length
      if payload.length = length then some (⟨sequence, payload⟩, after) else none
  | _ => none

theorem read?_length_lt
    {stream rest : Bytes}
    {frame : Frame}
    (found : read? stream = some (frame, rest)) :
    rest.length < stream.length := by
  unfold read? at found
  split at found
  · simp only [List.splitAt_eq] at found
    split at found
    · simp only [Option.some.injEq, Prod.mk.injEq] at found
      rw [← found.2]
      simp only [List.length_drop, List.length_cons]
      omega
    · cases found
  · cases found

theorem read?_bytes
    (frame : Frame)
    (rest : Bytes)
    (fits : frame.payload.length ≤ maxPayload) :
    read? (frame.bytes ++ rest) = some (frame, rest) := by
  have announced :
      Bytes.toNatLE (Bytes.ofNatLE 3 frame.payload.length) = frame.payload.length := by
    rw [Bytes.toNatLE_ofNatLE]
    exact Nat.mod_eq_of_lt (Nat.lt_of_le_of_lt fits (by decide))
  simp only [Bytes.ofNatLE] at announced
  simp [bytes, read?, Bytes.ofNatLE, announced]

def readAll (done : Array Frame) (stream : Bytes) : Array Frame × Bytes :=
  match _found : read? stream with
  | none => (done, stream)
  | some (frame, rest) => readAll (done.push frame) rest
termination_by stream.length
decreasing_by exact read?_length_lt _found

end Frame

end SqlGate
