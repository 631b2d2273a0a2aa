import SqlGate.Wire.Frame

/-!
# The frames of a stream

A stream is its complete frames and what is left behind them. Bytes that arrive
later can complete what is left, and never change the frames before it.
-/

namespace SqlGate.Frame

set_option autoImplicit false

def frames (stream : Bytes) : List Frame := (readAll #[] stream).1.toList

def left (stream : Bytes) : Bytes := (readAll #[] stream).2

section Read

variable {stream rest : Bytes}
variable {frame : Frame}

theorem fits_of_read? (found : read? stream = some (frame, rest)) :
    frame.payload.length ≤ maxPayload ∧ stream = frame.bytes ++ rest := by
  unfold read? at found
  split at found
  · rename_i low middle high sequence behind
    simp only [List.splitAt_eq] at found
    split at found
    · rename_i whole
      simp only [Option.some.injEq, Prod.mk.injEq] at found
      obtain ⟨rfl, rfl⟩ := found
      have header : Bytes.ofNatLE 3 (Bytes.toNatLE [low, middle, high]) = [low, middle, high] :=
        Bytes.ofNatLE_toNatLE [low, middle, high]
      constructor
      · have top : Nat.pow 256 3 = maxPayload + 1 := by decide
        have bound : Bytes.toNatLE [low, middle, high] < Nat.pow 256 3 :=
          Bytes.toNatLE_lt [low, middle, high]
        rw [top, ← whole] at bound
        exact Nat.le_of_lt_succ bound
      · simp only [bytes, whole, header, List.cons_append, List.nil_append,
          List.take_append_drop]
    · cases found
  · cases found

/-- What arrives later does not change a frame that is complete. -/
theorem read?_append (found : read? stream = some (frame, rest)) (later : Bytes) :
    read? (stream ++ later) = some (frame, rest ++ later) := by
  obtain ⟨fits, split⟩ := fits_of_read? found
  rw [split, List.append_assoc]
  exact read?_bytes frame (rest ++ later) fits

theorem readAll_of_none (done : Array Frame) (found : read? stream = none) :
    readAll done stream = (done, stream) := by
  rw [readAll]
  split
  · rfl
  · simp_all only [reduceCtorEq]

theorem readAll_of_some (done : Array Frame) (found : read? stream = some (frame, rest)) :
    readAll done stream = readAll (done.push frame) rest := by
  rw [readAll]
  split
  · simp_all only [reduceCtorEq]
  · simp_all only [Option.some.injEq, Prod.mk.injEq]

/-- Whoever takes frame after frame off a stream comes to an end. -/
theorem stream_induction
    {holds : Bytes → Prop}
    (quiet : ∀ stream, read? stream = none → holds stream)
    (next : ∀ stream frame rest, read? stream = some (frame, rest) → holds rest → holds stream)
    (stream : Bytes) :
    holds stream := by
  cases found : read? stream with
  | none => exact quiet stream found
  | some read =>
      obtain ⟨frame, rest⟩ := read
      exact next stream frame rest found (stream_induction quiet next rest)
termination_by stream.length
decreasing_by exact read?_length_lt found

theorem readAll_eq (stream : Bytes) :
    ∀ done, readAll done stream = (done ++ (frames stream).toArray, left stream) := by
  induction stream using stream_induction with
  | quiet stream found =>
      intro done
      simp only [frames, left, readAll_of_none _ found, Array.append_empty]
  | next stream frame rest found ih =>
      intro done
      have alone : readAll #[] stream = (#[frame] ++ (frames rest).toArray, left rest) := by
        rw [readAll_of_some _ found, ih]
        rfl
      have head : frames stream = frame :: frames rest := by
        rw [frames.eq_1 stream, alone, Array.toList_append]
        rfl
      have tail : left stream = left rest := by
        rw [left.eq_1 stream, alone]
      rw [readAll_of_some _ found, ih, head, tail]
      simp only [Array.push_eq_append, Array.append_assoc, List.append_toArray,
        List.singleton_append]

theorem frames_of_none (found : read? stream = none) : frames stream = [] := by
  simp only [frames, readAll_of_none _ found]

theorem left_of_none (found : read? stream = none) : left stream = stream := by
  simp only [left, readAll_of_none _ found]

theorem frames_of_some (found : read? stream = some (frame, rest)) :
    frames stream = frame :: frames rest := by
  rw [frames, readAll_of_some _ found, readAll_eq]
  simp only [List.push_toArray, List.nil_append, List.append_toArray, List.cons_append]

theorem left_of_some (found : read? stream = some (frame, rest)) : left stream = left rest := by
  rw [left, readAll_of_some _ found, readAll_eq]

end Read

theorem read?_left (stream : Bytes) : read? (left stream) = none := by
  induction stream using stream_induction with
  | quiet stream found => rw [left_of_none found, found]
  | next stream frame rest found ih => rw [left_of_some found, ih]

theorem bytes_frames (stream : Bytes) :
    (frames stream).flatMap bytes ++ left stream = stream := by
  induction stream using stream_induction with
  | quiet stream found => rw [frames_of_none found, left_of_none found, List.flatMap_nil,
      List.nil_append]
  | next stream frame rest found ih =>
      rw [frames_of_some found, left_of_some found, List.flatMap_cons, List.append_assoc, ih]
      exact (fits_of_read? found).2.symm

/-- What arrives later can only complete what is left. -/
theorem frames_append (stream later : Bytes) :
    frames (stream ++ later) = frames stream ++ frames (left stream ++ later) := by
  induction stream using stream_induction with
  | quiet stream found => rw [frames_of_none found, left_of_none found, List.nil_append]
  | next stream frame rest found ih =>
      rw [frames_of_some (read?_append found later), frames_of_some found, left_of_some found, ih,
        List.cons_append]

theorem left_append (stream later : Bytes) :
    left (stream ++ later) = left (left stream ++ later) := by
  induction stream using stream_induction with
  | quiet stream found => rw [left_of_none found]
  | next stream frame rest found ih =>
      rw [left_of_some (read?_append found later), left_of_some found, ih]

end SqlGate.Frame
