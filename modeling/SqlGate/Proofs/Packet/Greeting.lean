import SqlGate.Packet.Greeting
import SqlGate.Proofs.Wire.Reading

/-!
# Greetings that are read back

A greeting is written in full, and two of its flags say how much of it is read. With both set
it is read back as it was written; where one is missing, a part or a name is lost, and what was
written of the second part can pass for the plugin's name.
-/

namespace SqlGate

set_option autoImplicit false

namespace Greeting

/-- The second part is taken if it is as long as the greeting says, with a zero byte
behind it. -/
theorem secondPartReader_takes
    {dataLength : UInt8}
    {secondPart : Bytes}
    (announced : secondPart.length + 1 = secondPartLength dataLength) :
    (secondPartReader dataLength).Takes (Field.zeroTerminated secondPart) secondPart := by
  have size : (Field.zeroTerminated secondPart).length = secondPartLength dataLength := by
    rw [Field.zeroTerminated, List.length_append, List.length_singleton, announced]
  have taken := (Reader.fixed_takes (Field.zeroTerminated secondPart)).map Bytes.dropFinalZero
  rw [size] at taken
  intro position rest
  have within : min (secondPartLength dataLength)
      (Cursor.remaining ⟨position, Field.zeroTerminated secondPart ++ rest⟩) =
        secondPartLength dataLength := by
    rw [Cursor.remaining, List.length_append, size]
    omega
  have read := taken position rest
  rw [← within, Field.zeroTerminated, Bytes.dropFinalZero_append_zero] at read
  exact read

structure Writable (greeting : Greeting) : Prop where
  protocolVersion : greeting.protocolVersion = 10
  serverVersion : Utf8.ZeroFree greeting.serverVersion
  plugin : Utf8.ZeroFree greeting.plugin
  secondPart : greeting.secondPart.length + 1 = secondPartLength greeting.dataLength

/-- Whoever is not told of secure connections knows nothing of the second part, and takes the
plugin's name from where that was written. -/
def received (greeting : Greeting) : Greeting :=
  { greeting with
    secondPart :=
      if greeting.capabilities.has .secureConnection then greeting.secondPart else []
    plugin :=
      if greeting.capabilities.has .pluginAuth then
        if greeting.capabilities.has .secureConnection then greeting.plugin
        else Utf8.decodeLossy (greeting.secondPart.takeWhile (· != 0))
      else "" }

theorem received_of_flags
    {greeting : Greeting}
    (secure : greeting.capabilities.has .secureConnection = true)
    (plugins : greeting.capabilities.has .pluginAuth = true) :
    greeting.received = greeting := by
  rw [received, secure, plugins]
  rfl

/-- The plugin's name is the last field that is read, and what follows it is ignored. -/
theorem plugin_gives
    {announced : Bool}
    {name : String}
    {bytes field : Bytes}
    (taken : Reader.textUntilZero.Takes field name)
    (begins : field <+: bytes)
    (nonempty : bytes ≠ [])
    (greeting : Greeting) :
    (do
      let behind ← Reader.more
      if (announced && behind) = true then
        let plugin ← Reader.textUntilZero
        pure { greeting with plugin }
      else
        let plugin ← pure ""
        pure { greeting with plugin } : Reader Greeting).Gives bytes
          { greeting with plugin := if announced then name else "" } := by
  apply Reader.Gives.more
  cases announced with
  | false => exact Reader.Gives.pure _ _
  | true =>
      obtain ⟨rest, rfl⟩ := begins
      have behind : (field ++ rest).isEmpty = false := by
        rw [List.isEmpty_eq_false_iff]
        exact nonempty
      rw [behind]
      apply taken.thenGives
      exact Reader.Gives.pure _ _

theorem decode_encode {greeting : Greeting} (writable : greeting.Writable) :
    decode greeting.encode = .ok greeting.received := by
  rcases greeting with
    ⟨protocolVersion, serverVersion, connectionId, firstPart, capabilities, charset, status,
      dataLength, secondPart, plugin⟩
  rcases writable with ⟨version, serverFree, pluginFree, announced⟩
  dsimp only at version serverFree pluginFree announced
  subst version
  suffices gives : reader.Gives _ _ from gives.runOn
  simp only [encode, List.cons_append, List.append_assoc, List.nil_append]
  apply (Reader.int1_takes 10).thenGives_cons
  apply (Reader.textUntilZero_takes serverFree).thenGives
  apply (Reader.int4_takes connectionId).thenGives
  apply (Reader.fixedBytes_takes firstPart).thenGives
  apply (Reader.skip_takes [0]).thenGives_cons
  apply (Reader.int2_takes _).thenGives
  apply (Reader.int1_takes charset).thenGives_cons
  apply (Reader.int2_takes status).thenGives
  apply (Reader.int2_takes _).thenGives
  rw [Capabilities.ofHalves_lower_upper]
  apply (Reader.int1_takes dataLength).thenGives_cons
  apply (Reader.skip_takes (List.replicate 10 0)).thenGives
  dsimp only [received]
  cases capabilities.has .secureConnection with
  | true =>
      apply (secondPartReader_takes announced).thenGives
      exact plugin_gives (Reader.textUntilZero_takes pluginFree) List.prefix_rfl
        (Reader.zeroTerminated_ne_nil _)
        ⟨10, serverVersion, connectionId, firstPart, capabilities, charset, status, dataLength,
          secondPart, ""⟩
  | false =>
      have early := (Reader.zeroTerminated_takeWhile secondPart).trans
        (List.prefix_append _ (Field.zeroTerminated (Utf8.encode plugin)))
      exact plugin_gives
        (Reader.textUntilZero_takes_bytes (Reader.zero_notMem_takeWhile secondPart)) early
        (List.append_ne_nil_of_left_ne_nil (Reader.zeroTerminated_ne_nil _) _)
        ⟨10, serverVersion, connectionId, firstPart, capabilities, charset, status, dataLength,
          [], ""⟩

/-- A scramble may hold zero bytes, also at the end of its parts. -/
theorem writable_ofScramble
    {serverVersion : String}
    (connectionId : UInt32)
    (scramble : Scramble)
    (free : Utf8.ZeroFree serverVersion) :
    (ofScramble serverVersion connectionId scramble).Writable := by
  constructor
  · rfl
  · exact free
  · exact (by decide : Utf8.ZeroFree nativePasswordPlugin)
  · have rest : (ofScramble serverVersion connectionId scramble).secondPart.length = 12 := by
      simp [ofScramble, scramble.length_toList]
    rw [rest]
    rfl

theorem decode_ofScramble
    {serverVersion : String}
    (connectionId : UInt32)
    (scramble : Scramble)
    (free : Utf8.ZeroFree serverVersion) :
    decode (ofScramble serverVersion connectionId scramble).encode =
      .ok (ofScramble serverVersion connectionId scramble) := by
  have secure : Capabilities.serverDefault.has .secureConnection = true := by decide
  have plugins : Capabilities.serverDefault.has .pluginAuth = true := by decide
  have whole :
      (ofScramble serverVersion connectionId scramble).received =
        ofScramble serverVersion connectionId scramble :=
    received_of_flags secure plugins
  rw [decode_encode (writable_ofScramble connectionId scramble free), whole]

/-! ## Greetings that were read -/

theorem plugin_ensures
    (greeting : Greeting)
    (free : Utf8.ZeroFree greeting.serverVersion)
    (announced : Bool)
    (cursor : Cursor) :
    (do
      let behind ← Reader.more
      if (announced && behind) = true then
        let plugin ← Reader.textUntilZero
        pure { greeting with plugin }
      else
        let plugin ← pure ""
        pure { greeting with plugin } : Reader Greeting).Ensures cursor fun greeting _ =>
      Utf8.ZeroFree greeting.serverVersion := by
  apply Reader.Ensures.next
  intro behind _
  split
  · apply Reader.Ensures.next
    intro plugin _
    exact Reader.Ensures.pure free
  · apply Reader.Ensures.next
    intro plugin _
    exact Reader.Ensures.pure free

theorem decode_ensures
    {payload : Bytes}
    {greeting : Greeting}
    (decoded : decode payload = .ok greeting) :
    Utf8.ZeroFree greeting.serverVersion := by
  apply Reader.of_runOn decoded
  unfold reader
  apply Reader.Ensures.next
  intro protocolVersion _
  dsimp only
  split
  · apply Reader.Ensures.bind
    refine (Reader.textUntilZero_ensures _).mono ?_
    rintro serverVersion _ ⟨free, _⟩
    apply Reader.Ensures.next
    intro connectionId _
    apply Reader.Ensures.next
    intro firstPart _
    apply Reader.Ensures.next
    intro _ _
    apply Reader.Ensures.next
    intro lower _
    apply Reader.Ensures.next
    intro charset _
    apply Reader.Ensures.next
    intro status _
    apply Reader.Ensures.next
    intro upper _
    apply Reader.Ensures.next
    intro dataLength _
    apply Reader.Ensures.next
    intro _ _
    -- The second part is read or left out, and the plugin's name comes behind it either way.
    split
    · apply Reader.Ensures.next
      intro secondPart left
      exact plugin_ensures
        ⟨protocolVersion, serverVersion, connectionId, firstPart, .ofHalves lower upper, charset,
          status, dataLength, secondPart, ""⟩
        free _ _
    · apply Reader.Ensures.next
      intro secondPart left
      exact plugin_ensures
        ⟨protocolVersion, serverVersion, connectionId, firstPart, .ofHalves lower upper, charset,
          status, dataLength, secondPart, ""⟩
        free _ _
  · exact Reader.Ensures.bind (Reader.Ensures.throw _ _)

/-! ## Flags and scrambles -/

/-- What is read of a greeting depends on two of its flags, while all of it is written whatever
they say. Who knows of plugins alone takes the second part for the plugin's name, as far as its
first zero byte. The greeting of a connection has both flags, so that the client finds its
connection and all of the scramble. -/
theorem greeting_is_read_as_its_flags_say :
    (∀ greeting : Greeting,
      greeting.protocolVersion = 10 →
      Utf8.ZeroFree greeting.serverVersion →
      Utf8.ZeroFree greeting.plugin →
      greeting.secondPart.length = max 13 (greeting.dataLength.toNat - 8) - 1 →
        decode greeting.encode = .ok
          (match greeting.capabilities.has .secureConnection,
            greeting.capabilities.has .pluginAuth with
          | true, true => greeting
          | true, false => { greeting with plugin := "" }
          | false, true =>
              { greeting with
                secondPart := []
                plugin := Utf8.decodeLossy (greeting.secondPart.takeWhile (· != 0)) }
          | false, false => { greeting with secondPart := [], plugin := "" })) ∧
    ∀ (serverVersion : String) (connectionId : UInt32) (scramble : Scramble),
      Utf8.ZeroFree serverVersion →
        ∃ greeting,
          decode (ofScramble serverVersion connectionId scramble).encode = .ok greeting ∧
            greeting.connectionId = connectionId ∧ greeting.scramble = scramble.toList := by
  constructor
  · intro greeting version serverFree pluginFree length
    have announced : greeting.secondPart.length + 1 = secondPartLength greeting.dataLength := by
      unfold secondPartLength
      omega
    rw [decode_encode ⟨version, serverFree, pluginFree, announced⟩, received]
    cases greeting.capabilities.has .secureConnection with
    | true =>
        cases greeting.capabilities.has .pluginAuth with
        | true => rfl
        | false => rfl
    | false =>
        cases greeting.capabilities.has .pluginAuth with
        | true => rfl
        | false => rfl
  · intro serverVersion connectionId scramble free
    exact ⟨_, decode_ofScramble connectionId scramble free, rfl,
      scramble_ofScramble serverVersion connectionId scramble⟩

def pluginGreeting : Greeting where
  capabilities := .ofList [.pluginAuth]
  secondPart := [0x6E, 0x6F, 0xFF, 0x00, 1, 2, 3, 4, 5, 6, 7, 0x00]

theorem plugin_greeting_is_misread :
    decode pluginGreeting.encode =
        .ok { pluginGreeting with secondPart := [], plugin := "no\uFFFD" } ∧
      ∃ greeting,
        decode (ofScramble "8.0" 7 (FixedBytes.zero 20)).encode = .ok greeting ∧
          greeting.connectionId = 7 ∧ greeting.scramble = List.replicate 20 0 := by
  have name : Utf8.decodeLossy (pluginGreeting.secondPart.takeWhile (· != 0)) = "no\uFFFD" := by
    decide +kernel
  obtain ⟨ofFlags, ofConnection⟩ := greeting_is_read_as_its_flags_say
  have read := ofFlags pluginGreeting rfl (by decide) (by decide) rfl
  rw [name] at read
  exact ⟨read, ofConnection "8.0" 7 (FixedBytes.zero 20) (by decide)⟩

end Greeting

end SqlGate
