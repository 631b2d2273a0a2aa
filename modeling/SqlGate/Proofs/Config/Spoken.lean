import SqlGate.Proofs.Config.Consistency
import SqlGate.Proofs.Packet.Greeting
import SqlGate.Proofs.Packet.Login
import SqlGate.Proofs.Packet.Names

/-!
# Names that packets carry

A greeting shows the version of a configuration, and a login packet names one of its users and
one of its schemas. In a packet a name ends at its first NUL. A configuration with an empty name
is refused, while one with a NUL in a name is accepted. So it is the NULs alone that decide
whether clients and server understand its names.
-/

namespace SqlGate

set_option autoImplicit false

/-! ## Greetings -/

/-- The client takes the greeting of a connection for one of this version, and finds its
connection and all of the scramble. -/
def Greeting.Understood
    (serverVersion : String)
    (connectionId : UInt32)
    (scramble : Scramble) : Prop :=
  ∃ greeting,
    decode (ofScramble serverVersion connectionId scramble).encode = .ok greeting ∧
      greeting.serverVersion = serverVersion ∧
      greeting.connectionId = connectionId ∧
      greeting.scramble = scramble.toList

theorem Greeting.understood_iff
    {serverVersion : String}
    (connectionId : UInt32)
    (scramble : Scramble) :
    Understood serverVersion connectionId scramble ↔ Utf8.ZeroFree serverVersion := by
  constructor
  · rintro ⟨greeting, decoded, rfl, _⟩
    exact decode_ensures decoded
  · intro free
    exact ⟨_, decode_ofScramble connectionId scramble free, rfl, rfl,
      scramble_ofScramble serverVersion connectionId scramble⟩

/-! ## Logins -/

namespace LoginPacket

def ReadsAs (payload : Bytes) (username database : String) : Prop :=
  ∃ login,
    decode payload = .ok login ∧ login.username = username ∧ login.database = some database

theorem ReadsAs.zeroFree
    {payload : Bytes}
    {username database : String}
    (reads : ReadsAs payload username database) :
    Utf8.ZeroFree username ∧ Utf8.ZeroFree database := by
  obtain ⟨login, decoded, rfl, asks⟩ := reads
  obtain ⟨legible, _⟩ := decode_ensures decoded
  exact ⟨legible.username, (legible.database database asks).2⟩

theorem readsAs_encode
    {login : LoginPacket}
    {database : String}
    (speaks : login.capabilities.has .protocol41 = true)
    (announced : login.capabilities.has .connectWithDb = true)
    (carried : (ResponseForm.of login.capabilities).Carries login.authResponse)
    (username : Utf8.ZeroFree login.username)
    (asks : login.database = some database)
    (named : database ≠ "")
    (free : Utf8.ZeroFree database) :
    ReadsAs login.encode login.username database := by
  obtain ⟨plugin, given⟩ :=
    Reader.exists_textIfAnnounced_gives (login.capabilities.has .pluginAuth) login.plugin
  have gives : (namesReader login.capabilities).Gives login.names
      (databaseOfName database, plugin) := by
    unfold namesReader LoginPacket.names
    rw [announced, asks]
    apply (Reader.textIfAnnounced_takes free).thenGives
    exact given.map fun plugin => (databaseOfName database, plugin)
  have read : decode login.encode =
      .ok { login with database := databaseOfName database, plugin := plugin } := by
    rw [encode_eq, decode_behind_response speaks username (ResponseForm.reader_takes carried),
      gives.runOn]
    rfl
  exact ⟨_, read, rfl, if_neg (mt String.isEmpty_iff.mp named)⟩

/-- Both forms of a secure response have room for what answers a scramble. -/
theorem carries_of_secure
    {capabilities : Capabilities}
    {response : Bytes}
    (secure : capabilities.has .secureConnection = true)
    (short : response.length = 20) :
    (ResponseForm.of capabilities).Carries response := by
  rw [ResponseForm.of, if_pos secure]
  split
  · change response.length < UInt64.size
    rw [short]
    decide
  · change response.length < UInt8.size
    rw [short]
    decide

theorem readsAs_encode_iff
    {login : LoginPacket}
    {database : String}
    (speaks : login.capabilities.has .protocol41 = true)
    (secure : login.capabilities.has .secureConnection = true)
    (announced : login.capabilities.has .connectWithDb = true)
    (short : login.authResponse.length = 20)
    (asks : login.database = some database)
    (named : database ≠ "") :
    ReadsAs login.encode login.username database ↔
      Utf8.ZeroFree login.username ∧ Utf8.ZeroFree database := by
  refine ⟨ReadsAs.zeroFree, ?_⟩
  rintro ⟨username, free⟩
  exact readsAs_encode speaks announced (carries_of_secure secure short) username asks named free

def namingFlags : Capabilities :=
  .ofList [.connectWithDb, .protocol41, .secureConnection, .pluginAuth]

def naming (username database : String) : LoginPacket where
  capabilities := namingFlags
  username := username
  authResponse := List.replicate 20 0
  database := some database

theorem exists_readsAs_iff {username database : String} (named : database ≠ "") :
    (∃ payload, ReadsAs payload username database) ↔
      Utf8.ZeroFree username ∧ Utf8.ZeroFree database := by
  have speaks : namingFlags.has .protocol41 = true := by decide
  have secure : namingFlags.has .secureConnection = true := by decide
  have announced : namingFlags.has .connectWithDb = true := by decide
  have written : ReadsAs (naming username database).encode username database ↔
      Utf8.ZeroFree username ∧ Utf8.ZeroFree database :=
    readsAs_encode_iff speaks secure announced List.length_replicate rfl named
  constructor
  · rintro ⟨payload, reads⟩
    exact reads.zeroFree
  · intro free
    exact ⟨_, written.mpr free⟩

end LoginPacket

/-! ## Configurations -/

namespace Config

/-- Clients and server understand an accepted configuration as far as its names have no NUL. A
version with a NUL spoils every greeting, and no login packet at all names a user or a schema with
one. -/
theorem accepted_names_are_understood_without_nul
    {environment : Environment}
    {text : String}
    {config : Config}
    (accepted : ofText environment text = .ok config) :
    (∀ connectionId scramble,
      Greeting.Understood config.server.serverVersion connectionId scramble ↔
        Utf8.ZeroFree config.server.serverVersion) ∧
    ∀ user ∈ config.users, ∀ schema, config.schemas.contains schema = true →
      (∀ login : LoginPacket,
        login.capabilities.has .protocol41 = true →
        login.capabilities.has .secureConnection = true →
        login.capabilities.has .connectWithDb = true →
        login.authResponse.length = 20 →
        login.username = user.username →
        login.database = some schema →
          (LoginPacket.ReadsAs login.encode user.username schema ↔
            Utf8.ZeroFree user.username ∧ Utf8.ZeroFree schema)) ∧
      ((∃ payload, LoginPacket.ReadsAs payload user.username schema) ↔
        Utf8.ZeroFree user.username ∧ Utf8.ZeroFree schema) := by
  have labelled := (consistent_of_ofText accepted).labelled
  refine ⟨Greeting.understood_iff, ?_⟩
  intro user _ schema known
  have named : schema ≠ "" := by
    rintro rfl
    rw [known] at labelled
    cases labelled
  constructor
  · intro login speaks secure announced short sameUser asks
    rw [← sameUser]
    exact LoginPacket.readsAs_encode_iff speaks secure announced short asks named
  · exact LoginPacket.exists_readsAs_iff named

def stallText (serverVersion username schema : String) : String :=
  "server:\n listen_port: 1\n server_version: \"" ++ serverVersion ++ "\"\nusers:\n- username: \""
    ++ username ++ "\"\nschemas:\n \"" ++ schema ++ "\":\n"

theorem stall_is_understood :
    ∃ config,
      ofText (fun _ => none) (stallText "8.0" "clerk" "orders") = .ok config ∧
        Greeting.Understood "8.0" 7 (FixedBytes.zero 20) ∧
        LoginPacket.ReadsAs (LoginPacket.naming "clerk" "orders").encode "clerk" "orders" := by
  have read : (ofText (fun _ => none) (stallText "8.0" "clerk" "orders")).toOption.map
      (fun config =>
        (config.server.serverVersion, config.users, config.schemas.contains "orders")) =
      some ("8.0", [{ username := "clerk" }], true) := by
    decide +kernel
  obtain ⟨config, accepted, seen⟩ := exists_ok_of_toOption read
  simp only [Prod.mk.injEq] at seen
  obtain ⟨version, users, known⟩ := seen
  obtain ⟨greets, logins⟩ := accepted_names_are_understood_without_nul accepted
  rw [version] at greets
  have listed : ({ username := "clerk" } : Account) ∈ config.users := by simp [users]
  obtain ⟨written, _⟩ := logins _ listed "orders" known
  refine ⟨config, accepted, (greets 7 (FixedBytes.zero 20)).mpr (by decide), ?_⟩
  exact (written (.naming "clerk" "orders") (by decide) (by decide) (by decide) rfl rfl rfl).mpr
    (by decide)

/-- The greeting shows another connection, and no packet logs the user in or names the schema. -/
theorem stall_with_nul_is_misunderstood :
    ∃ config,
      ofText (fun _ => none) (stallText "8.0\\0x" "cle\\0rk" "or\\0ders") = .ok config ∧
        (∃ greeting,
          Greeting.decode (Greeting.ofScramble config.server.serverVersion 7
              (FixedBytes.zero 20)).encode = .ok greeting ∧
            greeting.serverVersion = "8.0" ∧ greeting.connectionId = 458872) ∧
        (∃ user ∈ config.users,
          ∀ payload schema, ¬ LoginPacket.ReadsAs payload user.username schema) ∧
        ∃ schema, config.schemas.contains schema = true ∧
          ∀ payload username, ¬ LoginPacket.ReadsAs payload username schema := by
  have read : (ofText (fun _ => none)
      (stallText "8.0\\0x" "cle\\0rk" "or\\0ders")).toOption.map (fun config =>
        (config.server.serverVersion, config.users, config.schemas.contains "or\x00ders")) =
      some ("8.0\x00x", [{ username := "cle\x00rk" }], true) := by
    decide +kernel
  obtain ⟨config, accepted, seen⟩ := exists_ok_of_toOption read
  simp only [Prod.mk.injEq] at seen
  obtain ⟨version, users, known⟩ := seen
  refine ⟨config, accepted, ?_, ?_, ?_⟩
  · have misread : (Greeting.decode (Greeting.ofScramble "8.0\x00x" 7
        (FixedBytes.zero 20)).encode).toOption.map
          (fun greeting => (greeting.serverVersion, greeting.connectionId)) =
        some ("8.0", 458872) := by
      decide +kernel
    obtain ⟨greeting, decoded, shown⟩ := exists_ok_of_toOption misread
    rw [version]
    exact ⟨greeting, decoded, Prod.mk.inj shown⟩
  · refine ⟨{ username := "cle\x00rk" }, by simp [users], ?_⟩
    intro payload schema reads
    exact absurd reads.zeroFree.1 (by decide)
  · refine ⟨"or\x00ders", known, ?_⟩
    intro payload username reads
    exact absurd reads.zeroFree.2 (by decide)

end Config

end SqlGate
