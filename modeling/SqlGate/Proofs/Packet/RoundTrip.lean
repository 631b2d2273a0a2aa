import SqlGate.Packet.Err
import SqlGate.Packet.Login
import SqlGate.Packet.Ok
import SqlGate.Packet.SwitchRequest
import SqlGate.Proofs.Wire.Prefixes

/-!
# Packets that are read back

The answers of the server and the login packet are read back as they were written. Clients
of an older protocol than 4.1 get neither the status nor the SQL state. Of a login packet the
fields are lost whose flag is not set, and an empty database name asks for none. A login packet
that was cut off is refused, or is the same login without the names at its end.
-/

namespace SqlGate

set_option autoImplicit false

namespace SwitchRequest

/-- Data that end in zero bytes are kept: the form adds one more. -/
theorem decode_encode
    {request : SwitchRequest}
    (header : request.header = 0xFE)
    (plugin : Utf8.ZeroFree request.plugin) :
    decode request.encode = .ok request := by
  rcases request with ⟨_, name, data⟩
  dsimp only at header plugin
  subst header
  have gives : reader.Gives (encode ⟨0xFE, name, data⟩) ⟨0xFE, name, data⟩ := by
    unfold encode
    rw [List.cons_append]
    apply (Reader.int1_takes 0xFE).thenGives_cons
    apply (Reader.textUntilZero_takes plugin).thenGives
    have ended := (Reader.toEnd_gives (Field.zeroTerminated data)).map
      fun data => SwitchRequest.mk 0xFE name (Bytes.dropFinalZero data)
    rwa [Field.zeroTerminated, Bytes.dropFinalZero_append_zero] at ended
  exact gives.runOn

end SwitchRequest

namespace OkPacket

def received (packet : OkPacket) (capabilities : Capabilities) : OkPacket :=
  if capabilities.has .protocol41 then packet else { packet with status := 0, warnings := 0 }

theorem decode_encode
    {packet : OkPacket}
    (header : packet.header = 0x00 ∨ packet.header = 0xFE)
    (capabilities : Capabilities) :
    decode (packet.encode capabilities) capabilities = .ok (packet.received capabilities) := by
  rcases packet with ⟨first, affectedRows, lastInsertId, status, warnings, info⟩
  have marked : (first = 0x00 || first = 0xFE) = true := by
    simpa only [Bool.or_eq_true, decide_eq_true_eq] using header
  suffices gives : (reader capabilities).Gives _ _ from gives.runOn
  unfold encode
  simp only [List.cons_append, List.append_assoc]
  apply (Reader.int1_takes first).thenGives_cons
  dsimp only
  rw [if_pos marked]
  apply (Reader.lengthEncoded_takes affectedRows).thenGives
  apply (Reader.lengthEncoded_takes lastInsertId).thenGives
  have ended := (Reader.toEnd_gives (Utf8.encode info)).map Utf8.decodeLossy
  rw [Utf8.decodeLossy_encode] at ended
  cases speaks : capabilities.has .protocol41 with
  | true =>
      simp only [if_true, received, speaks, List.append_assoc]
      apply (Reader.int2_takes status).thenGives
      apply (Reader.int2_takes warnings).thenGives
      exact ended.map _
  | false =>
      simp only [Bool.false_eq_true, if_false, received, speaks]
      exact ended.map _

end OkPacket

namespace ErrPacket

def received (packet : ErrPacket) (capabilities : Capabilities) : ErrPacket :=
  if capabilities.has .protocol41 then packet
  else { packet with marker := '#', sqlState := generalSqlState }

/-- The marker goes out as one byte, and so must be a character of one byte. -/
theorem decode_encode
    {packet : ErrPacket}
    (header : packet.header = 0xFF)
    (marker : packet.marker.toNat < 256)
    (capabilities : Capabilities) :
    decode (packet.encode capabilities) capabilities = .ok (packet.received capabilities) := by
  rcases packet with ⟨first, code, mark, sqlState, message⟩
  dsimp only at header marker
  subst header
  have kept : Char.ofNat (UInt8.ofNat mark.toNat).toNat = mark := by
    rw [UInt8.toNat_ofNat', Nat.mod_eq_of_lt marker, Char.ofNat_toNat]
  suffices gives : (reader capabilities).Gives _ _ from gives.runOn
  unfold encode
  simp only [List.cons_append, List.append_assoc]
  apply (Reader.int1_takes 0xFF).thenGives_cons
  apply (Reader.int2_takes code).thenGives
  have ended := (Reader.toEnd_gives (Utf8.encode message)).map Utf8.decodeLossy
  rw [Utf8.decodeLossy_encode] at ended
  cases speaks : capabilities.has .protocol41 with
  | true =>
      simp only [if_true, received, speaks, List.cons_append]
      apply (Reader.int1_takes (UInt8.ofNat mark.toNat)).thenGives_cons
      apply (Reader.fixedBytes_takes sqlState).thenGives
      rw [kept]
      exact ended.map _
  | false =>
      simp only [Bool.false_eq_true, if_false, received, speaks, List.nil_append]
      exact ended.map _

end ErrPacket

/-- Whatever values they hold, the answers and the request to switch are read as they were
written, but for what clients of an older protocol do not get. The SQL state may be any five
bytes, and the data of a switch may end in zero bytes. -/
theorem replies_are_read_as_written (capabilities : Capabilities) :
    (∀ packet : OkPacket,
      packet.header = 0x00 ∨ packet.header = 0xFE →
        OkPacket.decode (packet.encode capabilities) capabilities = .ok
          (if capabilities.has .protocol41 then packet
          else { packet with status := 0, warnings := 0 })) ∧
    (∀ packet : ErrPacket,
      packet.header = 0xFF →
      packet.marker.toNat ≤ 0xFF →
        ErrPacket.decode (packet.encode capabilities) capabilities = .ok
          (if capabilities.has .protocol41 then packet
          else { packet with marker := '#', sqlState := generalSqlState })) ∧
    ∀ request : SwitchRequest,
      request.header = 0xFE →
      Utf8.ZeroFree request.plugin →
        SwitchRequest.decode request.encode = .ok request := by
  refine ⟨?_, ?_, ?_⟩
  · intro packet header
    exact OkPacket.decode_encode header capabilities
  · intro packet header marker
    exact ErrPacket.decode_encode header (Nat.lt_succ_of_le marker) capabilities
  · intro request header free
    exact SwitchRequest.decode_encode header free

/-- The answers to a client of an older protocol, and a request whose data are zero bytes. -/
theorem old_client_reads_the_replies :
    OkPacket.decode
        (OkPacket.encode ⟨0xFE, 0xFFFFFFFFFFFFFFFF, 0x10000, 2, 3, "né"⟩ .none) .none =
      .ok ⟨0xFE, 0xFFFFFFFFFFFFFFFF, 0x10000, 0, 0, "né"⟩ ∧
    ErrPacket.decode
        (ErrPacket.encode ⟨0xFF, 1045, 'ÿ', FixedBytes.zero 5, "né"⟩ .none) .none =
      .ok ⟨0xFF, 1045, '#', generalSqlState, "né"⟩ ∧
    SwitchRequest.decode (SwitchRequest.encode ⟨0xFE, "né", [0, 0]⟩) =
      .ok ⟨0xFE, "né", [0, 0]⟩ := by
  obtain ⟨ok, err, switch⟩ := replies_are_read_as_written .none
  exact ⟨ok _ (.inr rfl), err _ rfl (by decide), switch _ rfl (by decide)⟩

namespace LoginPacket

def ResponseForm.Carries (response : Bytes) : ResponseForm → Prop
  | lengthEncoded => response.length < UInt64.size
  | oneByteLength => response.length < UInt8.size
  | zeroTerminated => 0 ∉ response

theorem ResponseForm.reader_takes
    {form : ResponseForm}
    {response : Bytes}
    (carries : form.Carries response) :
    form.reader.Takes (form.encode response) response := by
  cases form with
  | lengthEncoded => exact Reader.lengthPrefixed_takes carries
  | oneByteLength =>
      have size : (UInt8.ofNat response.length).toNat = response.length := by
        rw [UInt8.toNat_ofNat']
        exact Nat.mod_eq_of_lt carries
      apply (Reader.int1_takes (UInt8.ofNat response.length)).bind_cons
      rw [size]
      exact Reader.fixed_takes response
  | zeroTerminated => exact Reader.untilZero_takes carries

theorem ResponseForm.reader_forward (form : ResponseForm) : form.reader.Forward := by
  cases form with
  | lengthEncoded => exact Reader.lengthPrefixed_forward
  | oneByteLength => exact Reader.int1_forward.bind fun _ => Reader.take_forward _ _
  | zeroTerminated => exact Reader.untilZero_forward

structure Writable (login : LoginPacket) : Prop where
  protocol41 : login.capabilities.has .protocol41 = true
  username : Utf8.ZeroFree login.username
  response : (ResponseForm.of login.capabilities).Carries login.authResponse
  database : ∀ name ∈ login.database, Utf8.ZeroFree name
  plugin : ∀ name ∈ login.plugin, Utf8.ZeroFree name

def received (login : LoginPacket) : LoginPacket :=
  { login with
    database :=
      if login.capabilities.has .connectWithDb then databaseOfName (login.database.getD "")
      else none
    plugin := if login.capabilities.has .pluginAuth then login.plugin else none }

/-- Nothing is lost if the flags announce the fields and the database has a name. -/
theorem received_of_announced
    {login : LoginPacket}
    (named : ∀ name ∈ login.database, name ≠ "")
    (databaseAnnounced : login.database ≠ none → login.capabilities.has .connectWithDb = true)
    (pluginAnnounced : login.plugin ≠ none → login.capabilities.has .pluginAuth = true) :
    login.received = login := by
  have database : (if login.capabilities.has .connectWithDb then
      databaseOfName (login.database.getD "") else none) = login.database := by
    cases asks : login.database with
    | none =>
        -- Announced or not, an absent database is read as absent.
        exact ite_self none
    | some name =>
        have announced := databaseAnnounced (by rw [asks]; exact Option.some_ne_none name)
        rw [if_pos announced, Option.getD_some, databaseOfName,
          if_neg (mt String.isEmpty_iff.mp (named name asks))]
  have plugin : (if login.capabilities.has .pluginAuth then login.plugin else none) =
      login.plugin := by
    cases names : login.plugin with
    | none => exact ite_self none
    | some name =>
        exact if_pos (pluginAnnounced (by rw [names]; exact Option.some_ne_none name))
  rw [received, database, plugin]

def throughResponse (login : LoginPacket) : Bytes :=
  Bytes.ofUInt32 login.capabilities.bits
    ++ Bytes.ofUInt32 login.maxPacketSize
    ++ login.charset :: List.replicate 23 0
    ++ Field.zeroTerminated (Utf8.encode login.username)
    ++ (ResponseForm.of login.capabilities).encode login.authResponse

def throughDatabase (login : LoginPacket) : Bytes :=
  login.throughResponse
    ++ (if login.capabilities.has .connectWithDb then
          Field.zeroTerminated (Utf8.encode (login.database.getD ""))
        else [])

/-- The beginnings of the packet that are login packets, and what each is read as. -/
def readings (login : LoginPacket) : List (Bytes × LoginPacket) :=
  [(login.throughResponse, { login.received with database := none, plugin := none }),
    (login.throughDatabase, { login.received with plugin := none }),
    (login.encode, login.received)]

/-- The user's name must be there, so to stop before it is no login, whether or not the flags
ask for TLS. -/
theorem reader_acceptsOnly {login : LoginPacket} (writable : login.Writable) :
    reader.AcceptsOnly login.encode login.readings := by
  -- The same list, as the reader comes by it field after field.
  have places : login.readings =
      (Reader.behind (Bytes.ofUInt32 login.capabilities.bits) <|
        Reader.behind (Bytes.ofUInt32 login.maxPacketSize) <|
        Reader.behind [login.charset] <|
        Reader.behind (List.replicate 23 0) <|
        Reader.behind (Field.zeroTerminated (Utf8.encode login.username)) <|
        Reader.behind ((ResponseForm.of login.capabilities).encode login.authResponse) <|
        ([], { login.received with database := none, plugin := none }) ::
          (Reader.behind
              (Reader.announcedText (login.capabilities.has .connectWithDb)
                (some (login.database.getD ""))) <|
            ([], { login.received with plugin := none }) ::
              Reader.behind
                (Reader.announcedText (login.capabilities.has .pluginAuth) login.plugin)
                [([], login.received)])) := by
    simp only [Reader.behind, List.map_cons, List.map_nil, List.append_nil, List.append_assoc,
      List.cons_append, List.nil_append, readings, throughResponse, throughDatabase, encode]
    rfl
  rw [places]
  rcases login with ⟨capabilities, maxPacketSize, charset, username, response, database, plugin⟩
  rcases writable with ⟨speaks, userFree, carried, databaseFree, pluginFree⟩
  dsimp only at speaks userFree carried databaseFree pluginFree
  simp only [encode, List.cons_append, List.append_assoc]
  apply (Reader.int4_takes capabilities.bits).thenAcceptsOnly Reader.int4_forward
  dsimp only
  rw [if_pos speaks]
  apply (Reader.int4_takes maxPacketSize).thenAcceptsOnly Reader.int4_forward
  apply (Reader.int1_takes charset).thenAcceptsOnly_cons Reader.int1_forward
  apply (Reader.skip_takes (List.replicate 23 0)).thenAcceptsOnly (Reader.skip_forward _)
  apply Reader.AcceptsOnly.unlessAtEnd (Reader.zeroTerminated_ne_nil (Utf8.encode username))
  apply (Reader.textUntilZero_takes userFree).thenAcceptsOnly Reader.textUntilZero_forward
  apply (ResponseForm.reader_takes carried).thenAcceptsOnly (ResponseForm.reader_forward _)
  have named : ∀ name ∈ some (database.getD ""), Utf8.ZeroFree name := by
    intro name asked
    cases database with
    | none =>
        cases asked
        decide
    | some known => exact databaseFree name asked
  change Reader.AcceptsOnly _
    (Reader.announcedText (capabilities.has .connectWithDb) (some (database.getD "")) ++
      Reader.announcedText (capabilities.has .pluginAuth) plugin) _
  apply Reader.announcedText_acceptsOnly rfl named fun absent =>
    absurd absent (Option.some_ne_none _)
  · exact Reader.announcedText_at_end (Reader.AcceptsOnly.pure _)
  · apply Reader.announcedText_acceptsOnly (List.append_nil _).symm pluginFree fun _ => rfl
    · exact Reader.AcceptsOnly.pure _
    · cases plugin with
      | none => exact Reader.AcceptsOnly.pure _
      | some name => exact Reader.AcceptsOnly.pure _

theorem decode_of_isPrefix
    {login : LoginPacket}
    {cut : Bytes}
    (writable : login.Writable)
    (begins : cut <+: login.encode)
    (read : LoginPacket) :
    decode cut = .ok read ↔ (cut, read) ∈ login.readings :=
  (reader_acceptsOnly writable).runOn begins read

theorem decode_encode {login : LoginPacket} (writable : login.Writable) :
    decode login.encode = .ok login.received :=
  (decode_of_isPrefix writable List.prefix_rfl login.received).mpr (by simp [readings])

/-- Whatever its flags, known or not, a login packet is read as it was written, but for two
fields: a database that the flags do not announce, or that has no name, and a plugin that
they do not announce. The flags say what a response may be: anything that memory holds, at
most 255 bytes, or bytes without a zero. -/
theorem login_is_read_as_written
    {login : LoginPacket}
    (speaks : login.capabilities.has .protocol41 = true)
    (username : Utf8.ZeroFree login.username)
    (database : ∀ name ∈ login.database, Utf8.ZeroFree name)
    (plugin : ∀ name ∈ login.plugin, Utf8.ZeroFree name)
    (held : login.capabilities.has .lengthEncodedAuth = true →
      login.authResponse.length < UInt64.size)
    (short : login.capabilities.has .lengthEncodedAuth = false →
      login.capabilities.has .secureConnection = true → login.authResponse.length ≤ 255)
    (zeroFree : login.capabilities.has .lengthEncodedAuth = false →
      login.capabilities.has .secureConnection = false → 0 ∉ login.authResponse) :
    decode login.encode = .ok
      { login with
        database :=
          if login.capabilities.has .connectWithDb then login.database.filter (· ≠ "") else none
        plugin := if login.capabilities.has .pluginAuth then login.plugin else none } := by
  have carried : (ResponseForm.of login.capabilities).Carries login.authResponse := by
    unfold ResponseForm.of
    cases counted : login.capabilities.has .lengthEncodedAuth with
    | true => exact held counted
    | false =>
        cases secure : login.capabilities.has .secureConnection with
        | true => exact Nat.lt_succ_of_le (short counted secure)
        | false => exact zeroFree counted secure
  have named : databaseOfName (login.database.getD "") = login.database.filter (· ≠ "") := by
    cases login.database with
    | none => rfl
    | some name =>
        by_cases empty : name = ""
        · subst empty
          rfl
        · simp [databaseOfName, Option.filter, empty]
  rw [decode_encode ⟨speaks, username, carried, database, plugin⟩, received, named]

/-- A login with every flag, named or not, that asks for the database without a name. -/
def flaggedLogin : LoginPacket where
  capabilities := ⟨0xFFFFFFFF⟩
  username := "root"
  authResponse := 0x00 :: List.replicate 300 0xFB
  database := some ""
  plugin := some ""

theorem flagged_login_is_read :
    decode flaggedLogin.encode = .ok { flaggedLogin with database := none } :=
  login_is_read_as_written (by decide) (by decide) (by decide) (by decide)
    (fun _ => by decide +kernel) (by decide) (by decide)

/-- A login packet that was cut off is no other login: it is refused, unless it ends with the
response or with the database's name. Then it is the same login without the names that were
cut off. -/
theorem truncated_login_is_no_other_login
    {login : LoginPacket}
    {cut : Bytes}
    (writable : login.Writable)
    (begins : cut <+: login.encode)
    (short : cut ≠ login.encode) :
    ((∃ read, decode cut = .ok read) ↔
        cut = login.throughResponse ∨ cut = login.throughDatabase) ∧
      ∃ whole, decode login.encode = .ok whole ∧
        (cut = login.throughResponse →
          decode cut = .ok { whole with database := none, plugin := none }) ∧
        (cut = login.throughDatabase → decode cut = .ok { whole with plugin := none }) := by
  have places := decode_of_isPrefix writable begins
  have atResponse (ends : cut = login.throughResponse) :
      decode cut = .ok { login.received with database := none, plugin := none } := by
    rw [places, ends]
    exact List.mem_cons_self
  have atDatabase (ends : cut = login.throughDatabase) :
      decode cut = .ok { login.received with plugin := none } := by
    rw [places, ends]
    exact List.mem_cons_of_mem _ List.mem_cons_self
  refine ⟨⟨?_, ?_⟩, login.received, decode_encode writable, atResponse, atDatabase⟩
  · rintro ⟨read, decoded⟩
    have listed := (places read).mp decoded
    simp only [readings, List.mem_cons, Prod.mk.injEq, List.not_mem_nil, or_false] at listed
    rcases listed with ⟨ends, _⟩ | ⟨ends, _⟩ | ⟨ends, _⟩
    · exact .inl ends
    · exact .inr ends
    · exact absurd ends short
  · rintro (ends | ends)
    · exact ⟨_, atResponse ends⟩
    · exact ⟨_, atDatabase ends⟩

def fullLogin : LoginPacket where
  capabilities := .serverDefault
  username := "root"
  authResponse := List.replicate 20 0
  database := some "orders"
  plugin := some nativePasswordPlugin

theorem writable_fullLogin : fullLogin.Writable where
  protocol41 := by decide
  username := by decide
  response := (by decide : 20 < UInt64.size)
  database := by decide
  plugin := by decide

/-- Without the plugin's name the packet is a login, and without one byte more it is none. -/
theorem full_login_is_cut_off :
    decode fullLogin.throughDatabase = .ok { fullLogin with plugin := none } ∧
      ∀ read, decode fullLogin.throughDatabase.dropLast ≠ .ok read := by
  have begins : fullLogin.throughDatabase <+: fullLogin.encode := List.prefix_append _ _
  constructor
  · obtain ⟨_, whole, decoded, _, atDatabase⟩ :=
      truncated_login_is_no_other_login writable_fullLogin begins (by decide)
    have same : Except.ok fullLogin.received = .ok whole :=
      (decode_encode writable_fullLogin).symm.trans decoded
    cases same
    exact atDatabase rfl
  · intro read decoded
    have ends := (truncated_login_is_no_other_login writable_fullLogin
      ((List.dropLast_prefix _).trans begins) (by decide)).1.mp ⟨read, decoded⟩
    revert ends
    decide

end LoginPacket

end SqlGate
