import SqlGate.Proofs.Text.Size
import SqlGate.Proofs.Wire.Fields

/-!
# What a reader ensures

A reader that succeeds has taken its value from the front of what was left.
`Ensures` states this of one run of a reader, and follows the reader step by step;
`Advances` says that a reader never goes back. A `Forward` reader does not look beyond the
bytes that it takes either, and so it fails wherever it finds only some of them.
-/

namespace SqlGate.Reader

set_option autoImplicit false

variable {α β : Type}

/-- If the reader succeeds here, then with a value and a place like these. -/
def Ensures (reader : Reader α) (cursor : Cursor) (post : α → Cursor → Prop) : Prop :=
  ∀ value left, reader cursor = .ok value left → post value left

def Advances (reader : Reader α) : Prop :=
  ∀ cursor, reader.Ensures cursor fun _ left => left.rest.length ≤ cursor.rest.length

section Ensures

variable {cursor : Cursor}

theorem bind_eq_of_ok
    {first : Reader α}
    {next : α → Reader β}
    {value : α}
    {left : Cursor}
    (read : first cursor = .ok value left) :
    (first >>= next) cursor = next value left := by
  change EStateM.bind first next cursor = _
  rw [EStateM.bind, read]

theorem Ensures.bind
    {first : Reader α}
    {next : α → Reader β}
    {post : β → Cursor → Prop}
    (steps : first.Ensures cursor fun value left => (next value).Ensures left post) :
    (first >>= next).Ensures cursor post := by
  intro result final read
  have unfolded : EStateM.bind first next cursor = .ok result final := read
  unfold EStateM.bind at unfolded
  split at unfolded
  · rename_i value left begun
    exact steps value left begun result final unfolded
  · cases unfolded

theorem Ensures.next
    {first : Reader α}
    {next : α → Reader β}
    {post : β → Cursor → Prop}
    (goesOn : ∀ value left, (next value).Ensures left post) :
    (first >>= next).Ensures cursor post :=
  Ensures.bind fun value left _ => goesOn value left

theorem Ensures.pure
    {value : α}
    {post : α → Cursor → Prop}
    (holds : post value cursor) :
    (Pure.pure value : Reader α).Ensures cursor post := by
  intro result final read
  cases read
  exact holds

theorem Ensures.throw (problem : WireError) (post : α → Cursor → Prop) :
    (MonadExcept.throw problem : Reader α).Ensures cursor post := by
  intro result final read
  cases read

theorem Ensures.mono
    {reader : Reader α}
    {post weaker : α → Cursor → Prop}
    (ensures : reader.Ensures cursor post)
    (implied : ∀ value left, post value left → weaker value left) :
    reader.Ensures cursor weaker := by
  intro value left read
  exact implied value left (ensures value left read)

theorem Ensures.and
    {reader : Reader α}
    {post also : α → Cursor → Prop}
    (ensures : reader.Ensures cursor post)
    (ensuresAlso : reader.Ensures cursor also) :
    reader.Ensures cursor fun value left => post value left ∧ also value left := by
  intro value left read
  exact ⟨ensures value left read, ensuresAlso value left read⟩

end Ensures

/-- Whatever the reader makes of some bytes, it has taken the first of them, and takes those
for the same value whatever else follows them. -/
def Forward (reader : Reader α) : Prop :=
  ∀ cursor, reader.Ensures cursor fun value left =>
    ∃ bytes, bytes ++ left.rest = cursor.rest ∧ reader.Takes bytes value

theorem Forward.bind
    {first : Reader α}
    {next : α → Reader β}
    (begins : first.Forward)
    (goesOn : ∀ value, (next value).Forward) :
    (first >>= next).Forward := by
  intro cursor
  apply Ensures.bind
  refine (begins cursor).mono ?_
  rintro value left ⟨bytes, split, taken⟩
  refine (goesOn value left).mono ?_
  rintro result final ⟨others, behind, takenNext⟩
  exact ⟨bytes ++ others, by rw [List.append_assoc, behind, split], taken.bind takenNext⟩

theorem Forward.pure (value : α) : (Pure.pure value : Reader α).Forward := by
  intro cursor
  exact Ensures.pure ⟨[], List.nil_append _, Takes.pure value⟩

theorem Forward.throw (problem : WireError) :
    (MonadExcept.throw problem : Reader α).Forward := by
  intro cursor
  exact Ensures.throw problem _

theorem Forward.advances {reader : Reader α} (forward : reader.Forward) : reader.Advances := by
  intro cursor
  refine (forward cursor).mono ?_
  rintro value left ⟨bytes, split, _⟩
  rw [← split, List.length_append]
  omega

/-- A reader that takes just these bytes has too few in any that stop before their end. -/
theorem Forward.fails_short
    {reader : Reader α}
    {bytes cut : Bytes}
    {value other : α}
    {position : Nat}
    {left : Cursor}
    (forward : reader.Forward)
    (takes : reader.Takes bytes value)
    (begins : cut <+: bytes)
    (short : cut ≠ bytes) :
    reader ⟨position, cut⟩ ≠ .ok other left := by
  intro read
  obtain ⟨later, rfl⟩ := begins
  obtain ⟨used, split, taken⟩ := forward _ _ _ read
  change used ++ left.rest = cut at split
  have whole := takes position []
  rw [List.append_nil, ← split, List.append_assoc, taken] at whole
  injection whole with same places
  have none := (Cursor.mk.inj places).2
  apply short
  rw [(List.append_eq_nil_iff.mp none).2, List.append_nil]

theorem take_ensures (count : Nat) (field : FieldKind) (cursor : Cursor) :
    (take count field).Ensures cursor fun bytes left =>
      bytes.length = count ∧ bytes ++ left.rest = cursor.rest := by
  intro bytes left read
  simp only [take, List.splitAt_eq] at read
  split at read
  · rename_i enough
    cases read
    exact ⟨enough, List.take_append_drop count cursor.rest⟩
  · cases read

theorem take_forward (count : Nat) (field : FieldKind) : (take count field).Forward := by
  intro cursor
  refine (take_ensures count field cursor).mono ?_
  rintro bytes left ⟨rfl, split⟩
  exact ⟨bytes, split, take_takes bytes field⟩

theorem integer_forward (width : Nat) : (integer width).Forward :=
  (take_forward width _).bind fun _ => .pure _

theorem int1_forward : int1.Forward := (integer_forward 1).bind fun _ => .pure _

theorem int2_forward : int2.Forward := (integer_forward 2).bind fun _ => .pure _

theorem int3_forward : int3.Forward := (integer_forward 3).bind fun _ => .pure _

theorem int4_forward : int4.Forward := (integer_forward 4).bind fun _ => .pure _

theorem int8_forward : int8.Forward := (integer_forward 8).bind fun _ => .pure _

theorem lengthEncoded_forward : lengthEncoded.Forward := by
  apply int1_forward.bind
  intro marker
  split
  · exact .pure _
  · split
    · exact int2_forward.bind fun _ => .pure _
    · split
      · exact int3_forward.bind fun _ => .pure _
      · split
        · exact int8_forward
        · split
          · exact .throw _
          · exact .pure _

theorem lengthPrefixed_forward : lengthPrefixed.Forward :=
  lengthEncoded_forward.bind fun _ => take_forward _ _

theorem skip_forward (count : Nat) : (skip count).Forward :=
  (take_forward count _).bind fun _ => .pure _

/-- The zero byte is consumed as well. -/
theorem untilZero_ensures (cursor : Cursor) :
    untilZero.Ensures cursor fun bytes left =>
      0 ∉ bytes ∧ bytes ++ 0 :: left.rest = cursor.rest := by
  intro bytes left read
  have whole := @List.takeWhile_append_dropWhile _ (· != (0 : UInt8)) cursor.rest
  have head := List.head?_dropWhile_not (· != (0 : UInt8)) cursor.rest
  simp only [untilZero] at read
  split at read
  · cases read
  · rename_i zero rest found
    cases read
    have ends : zero = 0 := by
      simpa [found] using head
    rw [found, ends] at whole
    exact ⟨zero_notMem_takeWhile cursor.rest, whole⟩

theorem untilZero_forward : untilZero.Forward := by
  intro cursor
  refine (untilZero_ensures cursor).mono ?_
  rintro bytes left ⟨noZero, split⟩
  refine ⟨Field.zeroTerminated bytes, ?_, untilZero_takes noZero⟩
  rw [Field.zeroTerminated, List.append_assoc]
  exact split

theorem textUntilZero_forward : textUntilZero.Forward := untilZero_forward.bind fun _ => .pure _

/-- The text has no NUL, and takes at most three bytes for each byte of the field. -/
theorem textUntilZero_ensures (cursor : Cursor) :
    textUntilZero.Ensures cursor fun text left =>
      Utf8.ZeroFree text ∧ text.utf8ByteSize + 3 * left.rest.length ≤ 3 * cursor.rest.length := by
  apply Ensures.bind
  refine (untilZero_ensures cursor).mono ?_
  intro bytes left taken
  apply Ensures.pure
  have grows := Utf8.utf8ByteSize_decodeLossy_le bytes
  refine ⟨Utf8.zeroFree_decodeLossy taken.1, ?_⟩
  rw [← taken.2, List.length_append, List.length_cons]
  omega

theorem more_ensures (cursor : Cursor) : more.Ensures cursor fun _ left => left = cursor := by
  intro behind left read
  cases read
  rfl

/-- A text that is there only if a flag announces it and any byte is left. -/
theorem optionalText_ensures
    {cursor : Cursor}
    {post : β → Cursor → Prop}
    (announced : Bool)
    (wrap : String → α)
    (missing : α)
    (next : α → Reader β)
    (absent : (next missing).Ensures cursor post)
    (present : ∀ text left, announced = true → Utf8.ZeroFree text →
      text.utf8ByteSize + 3 * left.rest.length ≤ 3 * cursor.rest.length →
        (next (wrap text)).Ensures left post) :
    (do
      let behind ← more
      if (announced && behind) = true then
        let text ← textUntilZero
        let value ← Pure.pure (wrap text)
        next value
      else
        let value ← Pure.pure missing
        next value : Reader β).Ensures cursor post := by
  apply Ensures.bind
  refine (more_ensures cursor).mono ?_
  rintro behind _ rfl
  split
  · rename_i found
    apply Ensures.bind
    refine (textUntilZero_ensures _).mono ?_
    intro text left taken
    have flag := (Bool.and_eq_true_iff.mp found).1
    exact Ensures.bind (Ensures.pure (present text left flag taken.1 taken.2))
  · exact Ensures.bind (Ensures.pure absent)

theorem runOn_ensures
    {reader : Reader α}
    {payload : Bytes}
    {value : α}
    {post : α → Cursor → Prop}
    (read : reader.runOn payload = .ok value)
    (ensures : reader.Ensures (Cursor.ofPayload payload) post) :
    ∃ left, post value left := by
  unfold runOn at read
  split at read
  · rename_i result left succeeded
    cases read
    exact ⟨left, ensures value left succeeded⟩
  · cases read

theorem of_runOn
    {reader : Reader α}
    {payload : Bytes}
    {value : α}
    {post : α → Prop}
    (read : reader.runOn payload = .ok value)
    (ensures : reader.Ensures (Cursor.ofPayload payload) fun value _ => post value) :
    post value :=
  (runOn_ensures read ensures).elim fun _ holds => holds

end SqlGate.Reader
