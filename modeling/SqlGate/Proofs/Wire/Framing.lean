import SqlGate.Fault
import SqlGate.Proofs.Wire.Frames

/-!
# Framing

A reader takes a header off its stream and then as many bytes as the header announces. A
writer puts frames on a stream one after the other and refuses those that do not fit. What
the one writes the other reads, and every stream is the frames that are read off it and a
tail that holds no complete frame.
-/

namespace SqlGate.Frame

set_option autoImplicit false

/-! ## Reading and writing -/

structure Reception where
  announced : Nat
  sequence : UInt8
  payload : Bytes
deriving DecidableEq, Repr

def Reception.frame (reception : Reception) : Frame := ⟨reception.sequence, reception.payload⟩

def reception (frame : Frame) : Reception where
  announced := frame.payload.length
  sequence := frame.sequence
  payload := frame.payload

def takeExactly (count : Nat) (stream : Bytes) : Except Fault (Bytes × Bytes) :=
  if count ≤ stream.length then .ok (stream.splitAt count) else .error .streamEnded

def receive (stream : Bytes) : Except Fault (Reception × Bytes) := do
  let (header, behind) ← takeExactly 4 stream
  let announced := Bytes.toNatLE (header.take 3)
  let (payload, rest) ← takeExactly announced behind
  return (⟨announced, header.getD 3 0, payload⟩, rest)

theorem takeExactly_eq_ok
    {count : Nat}
    {stream taken rest : Bytes}
    (takes : takeExactly count stream = .ok (taken, rest)) :
    stream = taken ++ rest ∧ taken.length = count := by
  unfold takeExactly at takes
  split at takes
  · rename_i enough
    simp only [List.splitAt_eq, Except.ok.injEq, Prod.mk.injEq] at takes
    obtain ⟨rfl, rfl⟩ := takes
    simp [enough]
  · cases takes

theorem receive_length_lt
    {stream rest : Bytes}
    {reception : Reception}
    (receives : receive stream = .ok (reception, rest)) :
    rest.length < stream.length := by
  unfold receive at receives
  cases header : takeExactly 4 stream with
  | error fault =>
      rw [header] at receives
      cases receives
  | ok taken =>
      obtain ⟨four, behind⟩ := taken
      simp only [header, bind, Except.bind] at receives
      cases payload : takeExactly (Bytes.toNatLE (four.take 3)) behind with
      | error fault =>
          rw [payload] at receives
          cases receives
      | ok taken =>
          obtain ⟨body, after⟩ := taken
          simp only [payload, pure, Except.pure, Except.ok.injEq, Prod.mk.injEq] at receives
          obtain ⟨rfl, four_length⟩ := takeExactly_eq_ok header
          obtain ⟨rfl, _⟩ := takeExactly_eq_ok payload
          simp only [List.length_append, ← receives.2]
          omega

def receiveAll (stream : Bytes) : List Reception × Fault × Bytes :=
  match _receives : receive stream with
  | .error fault => ([], fault, stream)
  | .ok (reception, rest) =>
      let (later, fault, behind) := receiveAll rest
      (reception :: later, fault, behind)
termination_by stream.length
decreasing_by exact receive_length_lt _receives

/-- Frames written behind what a stream holds: what it holds then, and the fault that ended
the writing, if a frame was refused. -/
def transmit (written : Bytes) : List Frame → Bytes × Option Fault
  | [] => (written, none)
  | frame :: rest =>
      match frame.encode with
      | .ok bytes => transmit (written ++ bytes) rest
      | .error problem => (written, some (.ofWire problem))

/-! ## Tails without a frame -/

def Incomplete (tail : Bytes) : Prop :=
  tail.length < 4 ∨
    ∃ low middle high sequence behind,
      tail = low :: middle :: high :: sequence :: behind ∧
        behind.length < Bytes.toNatLE [low, middle, high]

theorem read?_eq_none_iff (tail : Bytes) : read? tail = none ↔ Incomplete tail := by
  constructor
  · intro unread
    unfold read? at unread
    split at unread
    · rename_i low middle high sequence behind
      refine .inr ⟨low, middle, high, sequence, behind, rfl, ?_⟩
      simp only [List.splitAt_eq, List.length_take] at unread
      split at unread
      · cases unread
      · omega
    · rename_i short
      left
      match tail with
      | [] => decide
      | [_] => simp
      | [_, _] => simp
      | [_, _, _] => simp
      | low :: middle :: high :: sequence :: behind =>
          exact absurd rfl (short low middle high sequence behind)
  · rintro (short | ⟨low, middle, high, sequence, behind, rfl, short⟩)
    · unfold read?
      split
      · simp at short
        omega
      · rfl
    · simp only [read?, List.splitAt_eq, List.length_take]
      rw [if_neg]
      omega

/-- A tail is incomplete when no frame stands at its front. -/
theorem incomplete_iff (tail : Bytes) :
    Incomplete tail ↔
      ∀ (frame : Frame) rest, frame.payload.length ≤ maxPayload → tail ≠ frame.bytes ++ rest := by
  rw [← read?_eq_none_iff]
  constructor
  · rintro unread frame rest fits rfl
    rw [read?_bytes frame rest fits] at unread
    cases unread
  · intro bare
    cases found : read? tail with
    | none => rfl
    | some read =>
        obtain ⟨frame, rest⟩ := read
        obtain ⟨fits, split⟩ := fits_of_read? found
        exact absurd split (bare frame rest fits)

/-! ## The reader takes frames -/

/-- A reader that goes by the header finds the frame at the front of the stream. -/
theorem receive_of_some
    {stream rest : Bytes}
    {frame : Frame}
    (found : read? stream = some (frame, rest)) :
    receive stream = .ok (frame.reception, rest) := by
  obtain ⟨fits, rfl⟩ := fits_of_read? found
  have announced :
      Bytes.toNatLE (Bytes.ofNatLE 3 frame.payload.length) = frame.payload.length := by
    rw [Bytes.toNatLE_ofNatLE]
    exact Nat.mod_eq_of_lt (Nat.lt_of_le_of_lt fits (by decide))
  simp only [Bytes.ofNatLE] at announced
  simp [receive, takeExactly, bytes, Bytes.ofNatLE, announced, reception, bind, Except.bind, pure,
    Except.pure]

theorem receive_of_none {stream : Bytes} (quiet : read? stream = none) :
    receive stream = .error .streamEnded := by
  rcases (read?_eq_none_iff stream).mp quiet with
    short | ⟨low, middle, high, sequence, behind, rfl, short⟩
  · have few : ¬ 4 ≤ stream.length := by omega
    simp [receive, takeExactly, few, bind, Except.bind]
  · have few : ¬ Bytes.toNatLE [low, middle, high] ≤ behind.length := by omega
    simp [receive, takeExactly, few, bind, Except.bind]

theorem receiveAll_of_error
    {stream : Bytes}
    {fault : Fault}
    (fails : receive stream = .error fault) :
    receiveAll stream = ([], fault, stream) := by
  rw [receiveAll]
  split <;> simp_all

theorem receiveAll_of_ok
    {stream rest : Bytes}
    {reception : Reception}
    (receives : receive stream = .ok (reception, rest)) :
    receiveAll stream =
      (reception :: (receiveAll rest).1, (receiveAll rest).2.1, (receiveAll rest).2.2) := by
  rw [receiveAll]
  split <;> simp_all

theorem receiveAll_eq (stream : Bytes) :
    receiveAll stream = ((frames stream).map reception, .streamEnded, left stream) := by
  induction stream using stream_induction with
  | quiet stream found =>
      rw [receiveAll_of_error (receive_of_none found), frames_of_none found, left_of_none found]
      rfl
  | next stream frame rest found ih =>
      rw [receiveAll_of_ok (receive_of_some found), ih, frames_of_some found, left_of_some found]
      rfl

/-! ## The writer puts frames -/

section Write

variable {written : Bytes}

theorem transmit_of_fits
    {frames : List Frame}
    (fits : ∀ frame ∈ frames, frame.payload.length ≤ maxPayload)
    (later : List Frame) :
    transmit written (frames ++ later) = transmit (written ++ frames.flatMap bytes) later := by
  induction frames generalizing written with
  | nil => simp
  | cons frame rest ih =>
      have encodes : frame.encode = .ok frame.bytes := if_pos (fits frame (by simp))
      rw [List.cons_append, transmit, encodes]
      simp only [List.flatMap_cons, ← List.append_assoc]
      exact ih fun other member => fits other (by simp [member])

theorem transmit_oversized
    {frame : Frame}
    (large : maxPayload < frame.payload.length)
    (later : List Frame) :
    transmit written (frame :: later) =
      (written, some (.ofWire (.oversized frame.payload.length))) := by
  have refused : frame.encode = .error (.oversized frame.payload.length) :=
    if_neg (Nat.not_le_of_lt large)
  rw [transmit, refused]

end Write

theorem frames_append_of_fits
    {written : List Frame}
    (fits : ∀ frame ∈ written, frame.payload.length ≤ maxPayload)
    (tail : Bytes) :
    frames (written.flatMap bytes ++ tail) = written ++ frames tail ∧
      left (written.flatMap bytes ++ tail) = left tail := by
  induction written with
  | nil => simp
  | cons frame rest ih =>
      obtain ⟨read, behind⟩ := ih fun other member => fits other (by simp [member])
      have found := read?_bytes frame (rest.flatMap bytes ++ tail) (fits frame (by simp))
      rw [List.flatMap_cons, List.append_assoc, frames_of_some found, left_of_some found, read,
        behind]
      simp

theorem fits_of_mem_frames
    {stream : Bytes}
    {frame : Frame}
    (member : frame ∈ frames stream) :
    frame.payload.length ≤ maxPayload := by
  induction stream using stream_induction with
  | quiet stream found => simp [frames_of_none found] at member
  | next stream first rest found ih =>
      rw [frames_of_some found, List.mem_cons] at member
      rcases member with rfl | later
      · exact (fits_of_read? found).1
      · exact ih later

/-- Frames that fit are read as they were written, each with the length of its payload, and
then the stream has ended, whatever is left that is no complete frame. Whatever a stream
holds, the packets that a waiting reader takes off it are the frames that `readAll` finds
there. They are its front again when they are written, and what is left is a part of a header
or a header that announces more than there is. A frame that does not fit is refused and leaves
the stream as it was. -/
theorem framing_is_a_bijection (written : Bytes) (sent : List Frame) :
    ((∀ frame ∈ sent, frame.payload.length ≤ maxPayload) →
      transmit written sent = (written ++ sent.flatMap bytes, none) ∧
      (∀ tail,
        (∀ (frame : Frame) rest, frame.payload.length ≤ maxPayload → tail ≠ frame.bytes ++ rest) →
        receiveAll ((transmit [] sent).1 ++ tail) = (sent.map reception, .streamEnded, tail)) ∧
      ∀ frame later, maxPayload < frame.payload.length →
        transmit written (sent ++ frame :: later) =
          ((transmit written sent).1,
            some (.protocol s!"Payload of {frame.payload.length} bytes exceeds a single packet"))) ∧
    ∀ stream,
      let (receptions, fault, behind) := receiveAll stream
      readAll #[] stream = ((receptions.map Reception.frame).toArray, behind) ∧
        fault = .streamEnded ∧
        (∀ reception ∈ receptions, reception.announced = reception.payload.length) ∧
        (transmit [] (receptions.map Reception.frame)).2 = none ∧
        (transmit [] (receptions.map Reception.frame)).1 ++ behind = stream ∧
        Incomplete behind := by
  constructor
  · intro fits
    have puts : ∀ before, transmit before sent = (before ++ sent.flatMap bytes, none) := by
      intro before
      have whole := @transmit_of_fits before sent fits []
      simpa [transmit] using whole
    refine ⟨puts written, ?_, ?_⟩
    · intro tail bare
      have quiet := (read?_eq_none_iff tail).mpr ((incomplete_iff tail).mpr bare)
      obtain ⟨read, behind⟩ := frames_append_of_fits fits tail
      simp [puts, receiveAll_eq, read, behind, frames_of_none quiet, left_of_none quiet]
    · intro frame later large
      rw [transmit_of_fits fits, transmit_oversized large, puts written]
      rfl
  · intro stream
    have again : ((frames stream).map reception).map Reception.frame = frames stream := by
      simp [Function.comp_def, reception, Reception.frame]
    have puts := @transmit_of_fits [] (frames stream)
      (fun frame member => fits_of_mem_frames member) []
    simp only [List.append_nil, List.nil_append, transmit] at puts
    have bare : Incomplete (left stream) := (read?_eq_none_iff _).mp (read?_left stream)
    rw [receiveAll_eq]
    dsimp only
    rw [again, puts]
    constructor
    · rw [frames, left, Array.toArray_toList]
    constructor
    · rfl
    constructor
    · intro reception member
      obtain ⟨frame, _, rfl⟩ := List.mem_map.mp member
      rfl
    · exact ⟨rfl, bytes_frames stream, bare⟩

/-- An empty packet and one of a single byte, behind which half a header has arrived. -/
theorem two_packets_are_read_as_written :
    receiveAll ((transmit [] [⟨0, []⟩, ⟨255, [0x0E]⟩]).1 ++ [1, 0]) =
      ([⟨0, 0, []⟩, ⟨1, 255, [0x0E]⟩], .streamEnded, [1, 0]) := by
  have short : Incomplete [1, 0] := .inl (by decide)
  have small : ∀ frame ∈ ([⟨0, []⟩, ⟨255, [0x0E]⟩] : List Frame),
      frame.payload.length ≤ maxPayload := by decide
  exact ((framing_is_a_bijection [] _).1 small).2.1 _ ((incomplete_iff _).mp short)

end SqlGate.Frame
