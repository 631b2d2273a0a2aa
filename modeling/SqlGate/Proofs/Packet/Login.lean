import SqlGate.Proofs.Packet.RoundTrip

/-!
# Login packets that were read

A packet that the server takes for a login packet speaks the 4.1 protocol. Its texts have
no NUL and take at most three bytes for each byte of the packet.
-/

namespace SqlGate

set_option autoImplicit false

namespace LoginPacket

def namesSize (login : LoginPacket) : Nat :=
  login.username.utf8ByteSize + (login.database.getD "").utf8ByteSize

theorem databaseOfName_getD (name : String) : (databaseOfName name).getD "" = name := by
  unfold databaseOfName
  split
  · rename_i empty
    exact (String.isEmpty_iff.mp empty).symm
  · rfl

/-- What any login packet is like that was read. -/
structure Legible (login : LoginPacket) : Prop where
  protocol41 : login.capabilities.has .protocol41 = true
  username : Utf8.ZeroFree login.username
  response : (ResponseForm.of login.capabilities).Carries login.authResponse
  database : ∀ name ∈ login.database, name ≠ "" ∧ Utf8.ZeroFree name
  plugin : ∀ name ∈ login.plugin, Utf8.ZeroFree name
  databaseAnnounced : login.database ≠ none → login.capabilities.has .connectWithDb = true
  pluginAnnounced : login.plugin ≠ none → login.capabilities.has .pluginAuth = true

/-- Nothing is lost of what was read when it is written again. -/
theorem Legible.writable {login : LoginPacket} (legible : login.Legible) : login.Writable where
  protocol41 := legible.protocol41
  username := legible.username
  response := legible.response
  database name asked := (legible.database name asked).2
  plugin := legible.plugin

theorem Legible.received {login : LoginPacket} (legible : login.Legible) :
    login.received = login :=
  received_of_announced (fun name asked => (legible.database name asked).1)
    legible.databaseAnnounced legible.pluginAnnounced

theorem ResponseForm.reader_ensures (form : ResponseForm) (cursor : Cursor) :
    form.reader.Ensures cursor fun response _ => form.Carries response := by
  cases form with
  | lengthEncoded =>
      apply Reader.Ensures.bind
      intro length left _
      refine (Reader.take_ensures _ _ left).mono ?_
      rintro response _ ⟨size, _⟩
      change response.length < _
      rw [size]
      exact length.toNat_lt
  | oneByteLength =>
      apply Reader.Ensures.bind
      intro length left _
      refine (Reader.take_ensures _ _ left).mono ?_
      rintro response _ ⟨size, _⟩
      change response.length < _
      rw [size]
      exact length.toNat_lt
  | zeroTerminated =>
      refine (Reader.untilZero_ensures cursor).mono ?_
      rintro response _ ⟨noZero, _⟩
      exact noZero

theorem legible_databaseOfName
    {text name : String}
    (free : Utf8.ZeroFree text)
    (named : name ∈ databaseOfName text) :
    name ≠ "" ∧ Utf8.ZeroFree name := by
  unfold databaseOfName at named
  split at named
  · cases named
  · rename_i nonempty
    cases named
    exact ⟨mt String.isEmpty_iff.mpr nonempty, free⟩

/-- The plugin's name is the last field, whether or not a database was named. -/
theorem plugin_ensures
    {login : LoginPacket}
    {cursor : Cursor}
    {bound : Nat}
    (legible : login.Legible)
    (names : login.namesSize + 3 * cursor.rest.length ≤ bound) :
    (do
      let behind ← Reader.more
      if (login.capabilities.has .pluginAuth && behind) = true then
        let text ← Reader.textUntilZero
        let plugin ← pure (some text)
        pure { login with plugin }
      else
        let plugin ← pure none
        pure { login with plugin } : Reader LoginPacket).Ensures cursor fun login left =>
      login.Legible ∧ login.namesSize + 3 * left.rest.length ≤ bound := by
  refine Reader.optionalText_ensures _ some none _ ?_ ?_
  · exact Reader.Ensures.pure
      ⟨⟨legible.protocol41, legible.username, legible.response, legible.database, nofun,
        legible.databaseAnnounced, nofun⟩, names⟩
  · intro plugin left announced free pluginRead
    have shorter := Nat.le_of_add_left_le pluginRead
    have named : ∀ name ∈ some plugin, Utf8.ZeroFree name := by
      intro name same
      cases same
      exact free
    exact Reader.Ensures.pure
      ⟨⟨legible.protocol41, legible.username, legible.response, legible.database, named,
        legible.databaseAnnounced, fun _ => announced⟩,
        Nat.le_trans (Nat.add_le_add_left shorter _) names⟩

theorem reader_ensures (cursor : Cursor) :
    reader.Ensures cursor fun login left =>
      login.Legible ∧ login.namesSize + 3 * left.rest.length ≤ 3 * cursor.rest.length := by
  unfold reader
  apply Reader.Ensures.bind
  refine (Reader.int4_forward.advances cursor).mono ?_
  intro bits afterBits bitsRead
  dsimp only
  split
  · rename_i speaks
    apply Reader.Ensures.bind
    refine (Reader.int4_forward.advances _).mono ?_
    intro maxPacketSize afterMaximum maximumRead
    apply Reader.Ensures.bind
    refine (Reader.int1_forward.advances _).mono ?_
    intro charset afterCharset charsetRead
    apply Reader.Ensures.bind
    refine ((Reader.skip_forward _).advances _).mono ?_
    intro _ afterReserved reservedRead
    apply Reader.Ensures.bind
    refine (Reader.more_ensures _).mono ?_
    rintro behind _ rfl
    split
    · exact Reader.Ensures.bind (Reader.Ensures.throw _ _)
    · apply Reader.Ensures.bind
      refine (Reader.textUntilZero_ensures _).mono ?_
      rintro username afterUsername ⟨free, usernameRead⟩
      apply Reader.Ensures.bind
      refine ((ResponseForm.reader_ensures _ _).and
        ((ResponseForm.reader_forward _).advances _)).mono ?_
      rintro response afterResponse ⟨carried, responseRead⟩
      refine Reader.optionalText_ensures _ databaseOfName none _ ?_ ?_
      · have legible : Legible ⟨⟨bits⟩, maxPacketSize, charset, username, response, none, none⟩ :=
          ⟨speaks, free, carried, nofun, nofun, nofun, nofun⟩
        apply plugin_ensures legible
        simp only [namesSize, Option.getD_none, String.utf8ByteSize_empty]
        omega
      · intro database afterDatabase announced databaseFree databaseRead
        have legible : Legible
            ⟨⟨bits⟩, maxPacketSize, charset, username, response, databaseOfName database, none⟩ :=
          ⟨speaks, free, carried, fun _ => legible_databaseOfName databaseFree, nofun,
            fun _ => announced, nofun⟩
        apply plugin_ensures legible
        simp only [namesSize, databaseOfName_getD]
        omega
  · exact Reader.Ensures.bind (Reader.Ensures.throw _ _)

/-- A login packet that can be read is legible, and its names are no longer than its bytes
allow. -/
theorem decode_ensures
    {payload : Bytes}
    {login : LoginPacket}
    (decoded : decode payload = .ok login) :
    login.Legible ∧ login.namesSize ≤ 3 * payload.length := by
  obtain ⟨left, legible, names⟩ := Reader.runOn_ensures decoded (reader_ensures _)
  have whole : (Cursor.ofPayload payload).rest = payload := rfl
  rw [whole] at names
  exact ⟨legible, by omega⟩

end LoginPacket

end SqlGate
