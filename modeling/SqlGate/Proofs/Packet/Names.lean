import SqlGate.Proofs.Packet.RoundTrip
import SqlGate.Proofs.Wire.Places

/-!
# The names of a login packet

Behind its response a login packet names the database that it asks for and the plugin that made
the response. Where the names begin is told by the length of the response alone. A length of one
byte counts 255 bytes at most, and what it leaves uncounted of a longer response stands where
the names are read. `namesReader` is the reader of a login packet from there on.
-/

namespace SqlGate

set_option autoImplicit false

namespace Reader

variable {α β : Type}

/-- A text that is there if a flag announces it and any byte is left. -/
def textIfAnnounced (announced : Bool) : Reader (Option String) := do
  if announced && (← more) then return some (← textUntilZero) else return none

theorem textIfAnnounced_placeless (announced : Bool) : (textIfAnnounced announced).Placeless := by
  unfold textIfAnnounced
  apply more_placeless.bind
  intro behind
  split
  · exact textUntilZero_placeless.bind fun _ => .pure _
  · exact .pure _

theorem textIfAnnounced_then
    (announced : Bool)
    (wrap : String → α)
    (missing : α)
    (next : α → Reader β) :
    (do
      let behind ← more
      if (announced && behind) = true then
        let text ← textUntilZero
        let value ← pure (wrap text)
        next value
      else
        let value ← pure missing
        next value : Reader β) =
      textIfAnnounced announced >>= fun text => next (text.elim missing wrap) := by
  unfold textIfAnnounced
  rw [bind_assoc]
  congr 1
  funext behind
  split
  · simp only [bind_assoc, pure_bind, Option.elim_some]
  · simp only [pure_bind, Option.elim_none]

theorem textIfAnnounced_of_ne_nil (position : Nat) {bytes : Bytes} (nonempty : bytes ≠ []) :
    textIfAnnounced true ⟨position, bytes⟩ =
      (textUntilZero >>= fun text => pure (some text)) ⟨position, bytes⟩ := by
  cases bytes with
  | nil => exact absurd rfl nonempty
  | cons byte rest => rfl

theorem textIfAnnounced_takes {text : String} (free : Utf8.ZeroFree text) :
    (textIfAnnounced true).Takes (Field.zeroTerminated (Utf8.encode text)) (some text) := by
  intro position rest
  have nonempty := List.append_ne_nil_of_left_ne_nil (zeroTerminated_ne_nil (Utf8.encode text)) rest
  rw [textIfAnnounced_of_ne_nil position nonempty]
  exact ((textUntilZero_takes free).map some) position rest

/-- Whatever a field of the packet holds, its name is read as far as the first NUL. -/
theorem textIfAnnounced_gives (text : String) :
    (textIfAnnounced true).Gives (Field.zeroTerminated (Utf8.encode text))
      (some (Utf8.decodeLossy ((Utf8.encode text).takeWhile (· != 0)))) := by
  obtain ⟨rest, split⟩ := zeroTerminated_takeWhile (Utf8.encode text)
  rw [← split]
  intro position
  rw [textIfAnnounced_of_ne_nil position
    (List.append_ne_nil_of_left_ne_nil (zeroTerminated_ne_nil _) rest)]
  exact ⟨_, ((textUntilZero_takes_bytes (zero_notMem_takeWhile _)).map some) position rest⟩

theorem exists_textIfAnnounced_gives (announced : Bool) (text : Option String) :
    ∃ read, (textIfAnnounced announced).Gives (announcedText announced text) read := by
  cases announced with
  | false => exact ⟨none, Gives.more (Gives.pure _ _)⟩
  | true =>
      cases text with
      | none => exact ⟨none, Gives.more (Gives.pure _ _)⟩
      | some text => exact ⟨_, textIfAnnounced_gives text⟩

end Reader

namespace LoginPacket

def namesReader (capabilities : Capabilities) : Reader (Option String × Option String) := do
  let database ← Reader.textIfAnnounced (capabilities.has .connectWithDb)
  let plugin ← Reader.textIfAnnounced (capabilities.has .pluginAuth)
  return (database.bind databaseOfName, plugin)

def throughUsername (login : LoginPacket) : Bytes :=
  Bytes.ofUInt32 login.capabilities.bits
    ++ Bytes.ofUInt32 login.maxPacketSize
    ++ login.charset :: List.replicate 23 0
    ++ Field.zeroTerminated (Utf8.encode login.username)

def names (login : LoginPacket) : Bytes :=
  Reader.announcedText (login.capabilities.has .connectWithDb) (some (login.database.getD ""))
    ++ Reader.announcedText (login.capabilities.has .pluginAuth) login.plugin

theorem encode_eq (login : LoginPacket) :
    login.encode =
      login.throughUsername
        ++ (ResponseForm.of login.capabilities).encode login.authResponse
        ++ login.names := by
  unfold encode throughUsername names
  rw [← List.append_assoc]
  rfl

theorem namesReader_placeless (capabilities : Capabilities) :
    (namesReader capabilities).Placeless := by
  apply (Reader.textIfAnnounced_placeless _).bind
  intro database
  apply (Reader.textIfAnnounced_placeless _).bind
  intro plugin
  exact .pure _

theorem namesReader_then {Result : Type}
    (capabilities : Capabilities)
    (next : Option String → Option String → Result) :
    (namesReader capabilities >>= fun names => pure (next names.1 names.2)) =
      (do
        let database ←
          if capabilities.has .connectWithDb && (← Reader.more) then
            pure (databaseOfName (← Reader.textUntilZero))
          else pure none
        let plugin ←
          if capabilities.has .pluginAuth && (← Reader.more) then
            pure (some (← Reader.textUntilZero))
          else pure none
        pure (next database plugin) : Reader Result) := by
  refine Eq.symm ((Reader.textIfAnnounced_then _ databaseOfName none _).trans ?_)
  unfold namesReader
  rw [bind_assoc]
  congr 1
  funext database
  refine (Reader.textIfAnnounced_then _ some none _).trans ?_
  rw [bind_assoc]
  congr 1
  funext plugin
  rw [pure_bind]
  cases database <;> cases plugin <;> rfl

/-- Whatever stands behind the response is read as the names. -/
theorem decode_behind_response
    {login : LoginPacket}
    {field response : Bytes}
    (speaks : login.capabilities.has .protocol41 = true)
    (username : Utf8.ZeroFree login.username)
    (taken : (ResponseForm.of login.capabilities).reader.Takes field response)
    (behind : Bytes) :
    decode (login.throughUsername ++ field ++ behind) =
      ((namesReader login.capabilities).runOn behind).map fun names =>
        { login with authResponse := response, database := names.1, plugin := names.2 } := by
  rcases login with ⟨capabilities, maxPacketSize, charset, name, _, _, _⟩
  dsimp only at speaks username taken ⊢
  suffices answers : reader.Answers _ _ from answers.runOn
  simp only [throughUsername, List.cons_append, List.append_assoc]
  apply (Reader.int4_takes capabilities.bits).thenAnswers
  dsimp only
  rw [if_pos speaks]
  apply (Reader.int4_takes maxPacketSize).thenAnswers
  apply (Reader.int1_takes charset).thenAnswers_cons
  apply (Reader.skip_takes (List.replicate 23 0)).thenAnswers
  apply Reader.Answers.more
  rw [Reader.isEmpty_zeroTerminated, if_neg (by simp)]
  apply (Reader.textUntilZero_takes username).thenAnswers
  apply taken.thenAnswers
  have answered := ((namesReader_placeless capabilities).answers behind).map fun names =>
    (⟨capabilities, maxPacketSize, charset, name, response, names.1, names.2⟩ : LoginPacket)
  rwa [namesReader_then] at answered

/-! ## Responses behind a length of one byte -/

/-- The bytes of a response that a length of one byte counts. -/
def counted (response : Bytes) : Bytes := response.take (response.length % 256)

def spilled (response : Bytes) : Bytes := response.drop (response.length % 256)

theorem counted_append_spilled (response : Bytes) :
    counted response ++ spilled response = response :=
  List.take_append_drop _ _

theorem counted_eq_iff {response : Bytes} :
    counted response = response ↔ response.length ≤ 255 := by
  constructor
  · intro same
    have length := congrArg List.length same
    rw [counted, List.length_take_of_le (Nat.mod_le _ _)] at length
    omega
  · intro short
    exact List.take_of_length_le (Nat.le_of_eq (Nat.mod_eq_of_lt (Nat.lt_succ_of_le short)).symm)

theorem counted_takes (response : Bytes) :
    ResponseForm.oneByteLength.reader.Takes
      (UInt8.ofNat response.length :: counted response) (counted response) := by
  have length : (counted response).length = (UInt8.ofNat response.length).toNat := by
    rw [counted, List.length_take_of_le (Nat.mod_le _ _), UInt8.toNat_ofNat']
  apply (Reader.int1_takes (UInt8.ofNat response.length)).bind_cons
  rw [← length]
  exact Reader.fixed_takes (counted response)

section OneByteLength

variable {login : LoginPacket}

/-- The bytes of a response that its length does not count come before the names. -/
theorem decode_encode_counted
    (speaks : login.capabilities.has .protocol41 = true)
    (username : Utf8.ZeroFree login.username)
    (form : ResponseForm.of login.capabilities = .oneByteLength) :
    decode login.encode =
      ((namesReader login.capabilities).runOn (spilled login.authResponse ++ login.names)).map
        fun names =>
          { login with
            authResponse := counted login.authResponse
            database := names.1
            plugin := names.2 } := by
  have taken := counted_takes login.authResponse
  rw [← form] at taken
  have split : login.encode =
      login.throughUsername
        ++ (UInt8.ofNat login.authResponse.length :: counted login.authResponse)
        ++ (spilled login.authResponse ++ login.names) := by
    rw [encode_eq, form, ResponseForm.encode, List.append_assoc, List.append_assoc,
      List.cons_append, List.cons_append, ← List.append_assoc (counted _), counted_append_spilled]
  rw [split, decode_behind_response speaks username taken]

/-- A response that starts with two names, and whose length counts no byte of it, passes for a
login with these names and without a response. -/
theorem decode_spilled_names
    {database plugin : String}
    {padding : Bytes}
    (speaks : login.capabilities.has .protocol41 = true)
    (username : Utf8.ZeroFree login.username)
    (form : ResponseForm.of login.capabilities = .oneByteLength)
    (databaseAnnounced : login.capabilities.has .connectWithDb = true)
    (pluginAnnounced : login.capabilities.has .pluginAuth = true)
    (databaseFree : Utf8.ZeroFree database)
    (pluginFree : Utf8.ZeroFree plugin)
    (response : login.authResponse =
      Field.zeroTerminated (Utf8.encode database) ++ Field.zeroTerminated (Utf8.encode plugin)
        ++ padding)
    (uncounted : login.authResponse.length % 256 = 0) :
    decode login.encode =
      .ok { login with
        authResponse := []
        database := databaseOfName database
        plugin := some plugin } := by
  have nothing : counted login.authResponse = [] := by
    rw [counted, uncounted, List.take_zero]
  have everything : spilled login.authResponse = login.authResponse := by
    rw [spilled, uncounted, List.drop_zero]
  have gives : (namesReader login.capabilities).Gives
      (login.authResponse ++ login.names) (databaseOfName database, some plugin) := by
    unfold namesReader
    rw [response, databaseAnnounced, pluginAnnounced, List.append_assoc, List.append_assoc]
    apply (Reader.textIfAnnounced_takes databaseFree).thenGives
    apply (Reader.textIfAnnounced_takes pluginFree).thenGives
    exact Reader.Gives.pure _ _
  rw [decode_encode_counted speaks username form, nothing, everything, gives.runOn]
  rfl

end OneByteLength

theorem databaseOfName_getD_eq_filter (database : Option String) :
    databaseOfName (database.getD "") = database.filter (· ≠ "") := by
  cases database with
  | none => rfl
  | some name =>
      by_cases unnamed : name = ""
      · subst unnamed
        rfl
      · simp [databaseOfName, Option.filter, unnamed]

/-- Behind a length of one byte, a response of at most 255 bytes is read as it was written, and so
are the names behind it. A longer one never is: of it remain the bytes that the length counts,
and the others are read as names, before those that were written. A packet that is refused is
refused for what is read there. -/
theorem responses_are_kept_if_one_byte_counts_them
    {login : LoginPacket}
    (speaks : login.capabilities.has .protocol41 = true)
    (secure : login.capabilities.has .secureConnection = true)
    (plain : login.capabilities.has .lengthEncodedAuth = false)
    (username : Utf8.ZeroFree login.username)
    (database : ∀ name ∈ login.database, Utf8.ZeroFree name)
    (plugin : ∀ name ∈ login.plugin, Utf8.ZeroFree name) :
    (login.authResponse.length ≤ 255 →
      decode login.encode = .ok
        { login with
          database :=
            if login.capabilities.has .connectWithDb then login.database.filter (· ≠ "") else none
          plugin := if login.capabilities.has .pluginAuth then login.plugin else none }) ∧
    (∀ read, decode login.encode = .ok read →
      read.username = login.username ∧
      (read.authResponse = login.authResponse ↔ login.authResponse.length ≤ 255) ∧
      read.authResponse ++ spilled login.authResponse = login.authResponse ∧
      (namesReader login.capabilities).runOn (spilled login.authResponse ++ login.names) =
        .ok (read.database, read.plugin)) ∧
    ∀ problem, decode login.encode = .error problem ↔
      (namesReader login.capabilities).runOn (spilled login.authResponse ++ login.names) =
        .error problem := by
  have form : ResponseForm.of login.capabilities = .oneByteLength := by
    rw [ResponseForm.of, plain, secure]
    rfl
  refine ⟨?_, ?_⟩
  · intro short
    have carried : (ResponseForm.of login.capabilities).Carries login.authResponse := by
      rw [form]
      exact Nat.lt_succ_of_le short
    rw [decode_encode ⟨speaks, username, carried, database, plugin⟩, received,
      databaseOfName_getD_eq_filter]
  · rw [decode_encode_counted speaks username form]
    cases (namesReader login.capabilities).runOn (spilled login.authResponse ++ login.names) with
    | error problem =>
        constructor
        · intro read decoded
          cases decoded
        · intro other
          simp [Except.map]
    | ok names =>
        constructor
        · intro read decoded
          cases decoded
          exact ⟨rfl, counted_eq_iff, counted_append_spilled _, rfl⟩
        · intro problem
          simp [Except.map]

def ordersLogin (response : Bytes) : LoginPacket where
  capabilities := .ofList [.connectWithDb, .protocol41, .secureConnection, .pluginAuth]
  username := "clerk"
  authResponse := response
  database := some "orders"
  plugin := some nativePasswordPlugin

theorem longest_counted_response_is_kept :
    decode (ordersLogin (List.replicate 255 0)).encode =
      .ok (ordersLogin (List.replicate 255 0)) := by
  obtain ⟨kept, _⟩ := @responses_are_kept_if_one_byte_counts_them
    (ordersLogin (List.replicate 255 0))
    (by decide) (by decide) (by decide) (by decide) (by decide) (by decide)
  exact kept (Nat.le_of_eq List.length_replicate)

/-- A response of 256 bytes, of which its length counts none. -/
def spillingResponse : Bytes :=
  Field.zeroTerminated (Utf8.encode "ledger") ++ Field.zeroTerminated (Utf8.encode "other_plugin")
    ++ List.replicate 236 0

/-- The login asks for the orders and is read as one that asks for the ledger. -/
theorem spilled_response_passes_for_names :
    ∃ read,
      decode (ordersLogin spillingResponse).encode = .ok read ∧
        read.authResponse = [] ∧
        read.database = some "ledger" ∧
        read.plugin = some "other_plugin" := by
  refine ⟨_, @decode_spilled_names (ordersLogin spillingResponse) "ledger" "other_plugin"
    (List.replicate 236 0)
    (by decide) (by decide) (by decide) (by decide) (by decide) (by decide) (by decide)
    rfl (by decide +kernel), rfl, rfl, rfl⟩

end LoginPacket

end SqlGate
