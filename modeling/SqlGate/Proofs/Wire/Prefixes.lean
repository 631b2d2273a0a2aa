import SqlGate.Proofs.Wire.Reading

/-!
# Packets that stop early

Fields at the end of a packet may be absent, so a packet that stops early can be a packet
as well. `AcceptsOnly` lists the beginnings of some bytes that a reader accepts, each with
what it reads there. A field that must be there adds none to the list, and an optional field
adds the place before it.
-/

namespace SqlGate.Reader

set_option autoImplicit false

variable {α β : Type}

/-- Of all beginnings of these bytes, the reader accepts just those in the list. -/
def AcceptsOnly (reader : Reader α) (bytes : Bytes) (accepted : List (Bytes × α)) : Prop :=
  ∀ position cut value, cut <+: bytes →
    ((∃ left, reader ⟨position, cut⟩ = .ok value left) ↔ (cut, value) ∈ accepted)

def behind (bytes : Bytes) (accepted : List (Bytes × α)) : List (Bytes × α) :=
  accepted.map fun place => (bytes ++ place.1, place.2)

theorem behind_nil (accepted : List (Bytes × α)) : behind [] accepted = accepted := by
  simp [behind]

theorem mem_behind {bytes rest : Bytes} {value : α} {accepted : List (Bytes × α)} :
    (bytes ++ rest, value) ∈ behind bytes accepted ↔ (rest, value) ∈ accepted := by
  simp [behind]

theorem isPrefix_of_mem_behind {bytes cut : Bytes} {value : α} {accepted : List (Bytes × α)}
    (found : (cut, value) ∈ behind bytes accepted) :
    bytes <+: cut := by
  obtain ⟨place, _, same⟩ := List.mem_map.mp found
  exact ⟨place.1, congrArg Prod.fst same⟩

/-- What stops early stops before the end of the first part, or within the rest. -/
theorem isPrefix_append_cases {cut bytes rest : Bytes} (within : cut <+: bytes ++ rest) :
    (cut <+: bytes ∧ cut ≠ bytes) ∨ ∃ later, later <+: rest ∧ cut = bytes ++ later := by
  rcases List.prefix_or_prefix_of_prefix within (List.prefix_append bytes rest) with
    partly | ⟨later, rfl⟩
  · by_cases whole : cut = bytes
    · exact .inr ⟨[], List.nil_prefix, by rw [whole, List.append_nil]⟩
    · exact .inl ⟨partly, whole⟩
  · exact .inr ⟨later, (List.prefix_append_right_inj bytes).mp within, rfl⟩

section Steps

variable {first : Reader α}
variable {next : α → Reader β}
variable {value : α}
variable {bytes rest : Bytes}
variable {accepted : List (Bytes × β)}

theorem AcceptsOnly.pure (value : α) :
    (Pure.pure value : Reader α).AcceptsOnly [] [([], value)] := by
  intro position cut other begins
  cases List.prefix_nil.mp begins
  constructor
  · rintro ⟨left, read⟩
    cases read
    exact List.mem_singleton_self _
  · intro found
    cases List.mem_singleton.mp found
    exact ⟨_, rfl⟩

/-- A packet that stops within a field that must be there is refused. -/
theorem Takes.thenAcceptsOnly
    (begins : first.Takes bytes value)
    (forward : first.Forward)
    (goesOn : (next value).AcceptsOnly rest accepted) :
    (first >>= next).AcceptsOnly (bytes ++ rest) (behind bytes accepted) := by
  intro position cut result within
  change (∃ left, EStateM.bind first next _ = _) ↔ _
  rcases isPrefix_append_cases within with ⟨partly, short⟩ | ⟨later, inRest, rfl⟩
  · have outside : (cut, result) ∉ behind bytes accepted := by
      intro found
      exact short (partly.eq_of_length_le (isPrefix_of_mem_behind found).length_le)
    refine iff_of_false ?_ outside
    rintro ⟨left, read⟩
    unfold EStateM.bind at read
    split at read
    · rename_i other _ readFirst
      exact forward.fails_short begins partly short readFirst
    · cases read
  · rw [mem_behind, EStateM.bind, begins]
    exact goesOn _ later result inRest

theorem Takes.thenAcceptsOnly_cons {byte : UInt8}
    (begins : first.Takes [byte] value)
    (forward : first.Forward)
    (goesOn : (next value).AcceptsOnly rest accepted) :
    (first >>= next).AcceptsOnly (byte :: rest) (behind [byte] accepted) :=
  begins.thenAcceptsOnly forward goesOn

/-- To refuse a packet that is at its end loses nothing where bytes must follow. -/
theorem AcceptsOnly.unlessAtEnd
    {reader : Reader β}
    {field : Bytes}
    {refuses : Bool}
    {problem : WireError}
    (nonempty : field ≠ [])
    (goesOn : reader.AcceptsOnly bytes (behind field accepted)) :
    (do
      let behind ← more
      if (refuses && !behind) = true then
        MonadExcept.throw problem
        reader
      else reader : Reader β).AcceptsOnly bytes (behind field accepted) := by
  intro position cut value begins
  have later := goesOn position cut value begins
  cases cut with
  | nil =>
      have outside : ([], value) ∉ behind field accepted := by
        intro found
        exact nonempty (List.prefix_nil.mp (isPrefix_of_mem_behind found))
      refine iff_of_false ?_ outside
      cases refuses with
      | true => exact nofun
      | false => exact fun read => outside (later.mp read)
  | cons byte cut =>
      cases refuses with
      | true => exact later
      | false => exact later

theorem AcceptsOnly.at_end {reader : Reader β} {stopped : β}
    (stops : reader.AcceptsOnly [] [([], stopped)])
    (position : Nat)
    (result : β) :
    (∃ left, reader ⟨position, []⟩ = .ok result left) ↔ ([], result) = (([] : Bytes), stopped) :=
  (stops position [] result List.nil_prefix).trans List.mem_singleton

/-- The place where a reader stops if nothing is there is one of those that it accepts. -/
theorem AcceptsOnly.with_end {reader : Reader β} {stopped : β}
    (accepts : reader.AcceptsOnly bytes accepted)
    (stops : reader.AcceptsOnly [] [([], stopped)]) :
    reader.AcceptsOnly bytes (([], stopped) :: accepted) := by
  intro position cut result begins
  have listed := accepts position cut result begins
  refine listed.trans ⟨List.mem_cons_of_mem _, fun found => ?_⟩
  rcases List.mem_cons.mp found with same | found
  · cases same
    exact listed.mp ((stops.at_end position _).mpr rfl)
  · exact found

/-- A text that may be absent is absent where nothing is left. -/
theorem announcedText_at_end
    {announced : Bool}
    {wrap : String → α}
    {missing : α}
    (stops : (next missing).AcceptsOnly [] accepted) :
    (do
      let behind ← more
      if (announced && behind) = true then
        let text ← textUntilZero
        let value ← Pure.pure (wrap text)
        next value
      else
        let value ← Pure.pure missing
        next value : Reader β).AcceptsOnly [] accepted := by
  intro position cut result within
  cases List.prefix_nil.mp within
  cases announced with
  | false => exact stops position [] result List.nil_prefix
  | true => exact stops position [] result List.nil_prefix

/-- A text that may be absent is absent from a packet that stops before it. One that was not
written must be the last field, for any byte behind it would count as its own. -/
theorem announcedText_acceptsOnly
    {announced : Bool}
    {text : Option String}
    {wrap : String → α}
    {missing : α}
    {stopped : β}
    (split : bytes = announcedText announced text ++ rest)
    (free : ∀ written ∈ text, Utf8.ZeroFree written)
    (last : text = none → rest = [])
    (stops : (next missing).AcceptsOnly [] [([], stopped)])
    (goesOn :
      (next (if announced then text.elim missing wrap else missing)).AcceptsOnly rest accepted) :
    (do
      let behind ← more
      if (announced && behind) = true then
        let text ← textUntilZero
        let value ← Pure.pure (wrap text)
        next value
      else
        let value ← Pure.pure missing
        next value : Reader β).AcceptsOnly bytes
          (([], stopped) :: behind (announcedText announced text) accepted) := by
  intro position cut result within
  rw [split] at within
  cases announced with
  | false =>
      have unwritten : announcedText false text = [] := by
        cases text <;> rfl
      rw [unwritten, List.nil_append] at within
      rw [unwritten, behind_nil]
      exact goesOn.with_end stops position cut result within
  | true =>
      cases text with
      | none =>
          have unwritten : announcedText true none = [] := rfl
          cases last rfl
          cases List.prefix_nil.mp within
          rw [unwritten, behind_nil]
          exact goesOn.with_end stops position [] result List.nil_prefix
      | some written =>
          have field : announcedText true (some written) =
            Field.zeroTerminated (Utf8.encode written) := rfl
          rw [field] at within ⊢
          rw [List.mem_cons]
          cases cut with
          -- Only with no byte left is the text absent; with one, it must be there in full.
          | nil =>
              have before : ([], result) ∉
                  behind (Field.zeroTerminated (Utf8.encode written)) accepted := by
                intro found
                have none := List.prefix_nil.mp (isPrefix_of_mem_behind found)
                exact zeroTerminated_ne_nil _ none
              rw [or_iff_left before]
              exact stops.at_end position result
          | cons byte cut =>
              have past : (byte :: cut, result) ≠ ([], stopped) := nofun
              have takes :
                  (textUntilZero >>= fun text => next (wrap text)).AcceptsOnly
                    (Field.zeroTerminated (Utf8.encode written) ++ rest)
                    (behind (Field.zeroTerminated (Utf8.encode written)) accepted) :=
                (textUntilZero_takes (free written rfl)).thenAcceptsOnly textUntilZero_forward
                  goesOn
              rw [or_iff_right past]
              exact takes position (byte :: cut) result within

theorem AcceptsOnly.runOn
    {reader : Reader β}
    {cut : Bytes}
    (accepts : reader.AcceptsOnly bytes accepted)
    (begins : cut <+: bytes)
    (result : β) :
    reader.runOn cut = .ok result ↔ (cut, result) ∈ accepted := by
  rw [← accepts 0 cut result begins]
  unfold Reader.runOn Cursor.ofPayload
  cases reader ⟨0, cut⟩ with
  | ok value left => simp
  | error problem left => simp

end Steps

end SqlGate.Reader
