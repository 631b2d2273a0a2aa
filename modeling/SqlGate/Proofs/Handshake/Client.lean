import SqlGate.Proofs.Handshake.Decision
import SqlGate.Proofs.Handshake.Ways
import SqlGate.Proofs.NativePassword
import SqlGate.Proofs.Packet.Greeting
import SqlGate.Proofs.Packet.RoundTrip

/-!
# Clients that get in

A client sees nothing of the server but bytes. From the greeting it takes the scramble and
answers with a login packet, and to a switch request it answers with the bare response.
Either way a client with the right password is admitted.
-/

namespace SqlGate

set_option autoImplicit false

structure Client where
  capabilities : Capabilities
  maxPacketSize : UInt32 := 0xFFFFFF
  charset : UInt8 := defaultCharset
  username : String
  password : String := ""
  database : Option String := none

namespace Client

def login (client : Client) (greeting : Greeting) : LoginPacket where
  capabilities := client.capabilities
  maxPacketSize := client.maxPacketSize
  charset := client.charset
  username := client.username
  authResponse := NativePassword.response client.password greeting.scramble
  database := client.database
  plugin := some nativePasswordPlugin

def answerGreeting (client : Client) (payload : Bytes) : Except WireError Bytes := do
  return (client.login (← Greeting.decode payload)).encode

def answerSwitch (client : Client) (payload : Bytes) : Except WireError Bytes := do
  return NativePassword.response client.password (← SwitchRequest.decode payload).data

/-- The flags announce what the login packet holds, and no text breaks off early. -/
structure Conforms (client : Client) : Prop where
  protocol41 : client.capabilities.has .protocol41 = true
  pluginAuth : client.capabilities.has .pluginAuth = true
  delimits :
    client.capabilities.has .secureConnection = true ∨
      client.capabilities.has .lengthEncodedAuth = true
  connectWithDb : client.database ≠ none → client.capabilities.has .connectWithDb = true
  username : Utf8.ZeroFree client.username
  database : ∀ name ∈ client.database, name ≠ "" ∧ Utf8.ZeroFree name

section Login

variable {client : Client}
variable (greeting : Greeting)

theorem writable_login (conforms : client.Conforms) : (client.login greeting).Writable := by
  have short : (client.login greeting).authResponse.length ≤ 20 :=
    NativePassword.length_response_le client.password greeting.scramble
  constructor
  · exact conforms.protocol41
  · exact conforms.username
  · unfold LoginPacket.ResponseForm.of
    split
    · exact Nat.lt_of_le_of_lt short (by decide)
    · rename_i notEncoded
      have secure : (client.login greeting).capabilities.has .secureConnection = true :=
        conforms.delimits.resolve_right notEncoded
      rw [if_pos secure]
      exact Nat.lt_of_le_of_lt short (by decide)
  · intro name asked
    exact (conforms.database name asked).2
  · intro name named
    cases named
    decide

theorem received_login (conforms : client.Conforms) :
    (client.login greeting).received = client.login greeting :=
  LoginPacket.received_of_announced (fun name asked => (conforms.database name asked).1)
    conforms.connectWithDb (fun _ => conforms.pluginAuth)

theorem decode_login (conforms : client.Conforms) :
    LoginPacket.decode (client.login greeting).encode = .ok (client.login greeting) := by
  rw [LoginPacket.decode_encode (writable_login greeting conforms), received_login greeting conforms]

theorem negotiated_login (conforms : client.Conforms) :
    Handshake.negotiated (client.login greeting) nativePasswordPlugin = true := by
  unfold Handshake.negotiated
  rw [Bool.and_eq_true]
  exact ⟨conforms.pluginAuth, beq_self_eq_true _⟩

end Login

theorem answerSwitch_encode (client : Client) (scramble : Scramble) :
    client.answerSwitch
        (SwitchRequest.encode { plugin := nativePasswordPlugin, data := scramble.toList }) =
      .ok (NativePassword.response client.password scramble.toList) := by
  have named : Utf8.ZeroFree nativePasswordPlugin := by decide
  have decoded := @SwitchRequest.decode_encode
    { plugin := nativePasswordPlugin, data := scramble.toList } rfl named
  rw [answerSwitch, decoded]
  rfl

end Client

structure Registries.Welcomes (registries : Registries) (client : Client) : Prop where
  registered :
    ∃ account,
      registries.users.get? client.username = some account ∧
        account.password = client.password ∧
        ∀ name ∈ client.database, account.mayUse name = true
  stands : ∀ name ∈ client.database, registries.schemas.current.contains name = true

namespace Handshake

/-- Where a login packet is awaited: behind the greeting, or where a handshake goes on from
a challenge that was put earlier. The bytes are those of the greeting. -/
inductive Offered : Exchange → Challenge → Bytes → Prop where
  | greeted
      (ids : ConnectionIds)
      (serverVersion host : String)
      (backend : Backend)
      (scramble : Scramble)
      (connectionId : UInt32)
      (reply : Outbound)
      (after : Exchange)
      (free : Utf8.ZeroFree serverVersion)
      (greets :
        (greet scramble).run (.fresh ids serverVersion host backend) = .ok connectionId after)
      (sends : after.sent = [reply]) :
      Offered after { connectionId, scramble } (reply.packet.encode after.handshake.capabilities)
  | resumed
      (before : Exchange)
      (challenge : Challenge)
      (replies : ReplyStream)
      (free : Utf8.ZeroFree replies.serverVersion) :
      Offered { before with handshake := before.handshake.resume challenge .fastPath } challenge
        ((replies.greeting challenge.connectionId challenge.scramble .serverDefault).1.packet.encode
          .serverDefault)

section Offered

variable {before : Exchange}
variable {challenge : Challenge}
variable {greetingBytes : Bytes}

theorem decode_greeting
    {serverVersion : String}
    (connectionId : UInt32)
    (scramble : Scramble)
    (free : Utf8.ZeroFree serverVersion) :
    let greeting := Greeting.ofScramble serverVersion connectionId scramble
    Greeting.decode greeting.encode = .ok greeting ∧ greeting.scramble = scramble.toList :=
  ⟨Greeting.decode_ofScramble connectionId scramble free,
    Greeting.scramble_ofScramble serverVersion connectionId scramble⟩

theorem Offered.opens (offered : Offered before challenge greetingBytes) :
    before.handshake.phase = .fastPath ∧
      before.handshake.challenge = some challenge ∧
      ∃ greeting,
        Greeting.decode greetingBytes = .ok greeting ∧
          greeting.scramble = challenge.scramble.toList := by
  cases offered with
  | greeted ids serverVersion host backend scramble connectionId reply after free greets sends =>
      rw [run_greet _ scramble rfl rfl] at greets
      cases greets
      cases sends
      exact ⟨rfl, rfl, _, decode_greeting _ scramble free⟩
  | resumed before challenge replies free =>
      exact ⟨rfl, rfl, _, decode_greeting _ challenge.scramble free⟩

end Offered

def LogsIn
    (client : Client)
    (challenge : Challenge)
    (before : Exchange)
    (packet : Inbound Registries) :
    Prop :=
  let (answer, after) := perform Registries.services before packet.call
  answer = .concluded .authenticated ∧
    after.handshake.phase = .authenticated ∧
    after.sent = before.sent ++ [⟨packet.sequence + 1, .ok {}⟩] ∧
    after.backend =
      { connectionId := challenge.connectionId
        username := some client.username
        schema := client.database.bind packet.source.schemas.resolve }

section Admission

variable {client : Client}
variable {registries : Registries}

theorem ruling_admits
    (welcome : registries.Welcomes client)
    (host : String)
    (challenge : Challenge)
    {attempt : LoginAttempt}
    (username : attempt.username = client.username)
    (database : attempt.database = client.database)
    (response : attempt.authResponse =
      NativePassword.response client.password challenge.scramble.toList) :
    ruling registries.services host challenge attempt =
      { outcome := .authenticated
        packet := .ok {}
        asked := [credentials host challenge attempt]
        backend := some
          { connectionId := challenge.connectionId
            username := some client.username
            schema := client.database.bind registries.schemas.resolve } } := by
  obtain ⟨account, registered, password, granted⟩ := welcome.registered
  have challenged : challenge.scramble.toList ≠ [] := by
    apply List.ne_nil_of_length_pos
    rw [challenge.scramble.length_toList]
    decide
  have verifies := account.verifies_response challenged
  rw [password, ← response] at verifies
  rw [← username] at registered
  rw [← database] at granted
  have stands := welcome.stands
  rw [← database] at stands
  have all : (attempt.database.all fun name =>
      registries.schemas.current.contains name && account.mayUse name) = true := by
    rw [Option.all_eq_true]
    intro name asked
    rw [stands name asked, granted name asked]
    rfl
  have admitted : (ruling registries.services host challenge attempt).outcome =
      .authenticated := by
    rw [outcome_ruling, verdict_proved registries attempt.database registered verifies, all]
    rfl
  rw [ruling_of_authenticated admitted, username, database]
  rfl

variable {before : Exchange}
variable {challenge : Challenge}
variable {packet : Inbound Registries}

theorem logsIn_negotiated
    {login : LoginPacket}
    (welcome : packet.source.Welcomes client)
    (phase : before.handshake.phase = .fastPath)
    (put : before.handshake.challenge = some challenge)
    (decoded : LoginPacket.decode packet.payload = .ok login)
    (plugin : negotiated login nativePasswordPlugin = true)
    (username : login.username = client.username)
    (database : login.database = client.database)
    (response : login.authResponse =
      NativePassword.response client.password challenge.scramble.toList) :
    LogsIn client challenge before packet := by
  have ruled := @ruling_admits _ _ welcome before.handshake.host challenge (.ofPacket login)
    username database response
  unfold LogsIn
  rw [perform_negotiated Registries.services packet phase put decoded plugin ruled.symm]
  exact ⟨rfl, rfl, rfl, rfl⟩

theorem logsIn_switchWay
    {first : Inbound Registries}
    {login : LoginPacket}
    (welcome : packet.source.Welcomes client)
    (phase : before.handshake.phase = .fastPath)
    (put : before.handshake.challenge = some challenge)
    (read : LoginPacket.decode first.payload = .ok login)
    (plugin : negotiated login nativePasswordPlugin = false)
    (username : login.username = client.username)
    (database : login.database = client.database)
    (response : packet.payload =
      NativePassword.response client.password challenge.scramble.toList) :
    LogsIn client challenge
      (((before.answering first.sequence).recorded login).switched
        (Registries.services first.source).policy.plugin challenge.scramble)
      packet := by
  have ruled := @ruling_admits _ _ welcome before.handshake.host challenge
    { LoginAttempt.ofPacket login with authResponse := packet.payload } username database response
  have performed := (perform_switchWay Registries.services phase put read plugin ruled.symm).2
  unfold LogsIn
  rw [performed]
  exact ⟨rfl, rfl, rfl, rfl⟩

/-- A client whose password and database are right is admitted, whichever bytes the
scramble has. Its own login packet negotiates the plugin and is answered with OK at once.
After any other login packet with its name and database it is asked to switch, and its
answer to that is answered with OK. -/
theorem conforming_client_is_admitted
    (client : Client)
    (conforms : client.Conforms)
    {before : Exchange}
    {challenge : Challenge}
    {greeting : Bytes}
    (offered : Offered before challenge greeting)
    (registries : Registries)
    (welcome : registries.Welcomes client) :
    (∃ payload,
      client.answerGreeting greeting = .ok payload ∧
        ∀ sequence, LogsIn client challenge before ⟨registries, sequence, payload⟩) ∧
    ∀ (first : Inbound Registries) (login : LoginPacket),
      LoginPacket.decode first.payload = .ok login →
        login.username = client.username → login.database = client.database →
          negotiated login nativePasswordPlugin = false →
            ∃ asking request payload,
              perform Registries.services before first.call =
                (.concluded .switchRequested, asking) ∧
              asking.sent = before.sent ++ [request] ∧
              client.answerSwitch (request.packet.encode asking.handshake.capabilities) =
                .ok payload ∧
              ∀ sequence, LogsIn client challenge asking ⟨registries, sequence, payload⟩ := by
  obtain ⟨phase, put, shown, decoded, scramble⟩ := offered.opens
  constructor
  · refine ⟨(client.login shown).encode, ?_, ?_⟩
    · rw [Client.answerGreeting, decoded]
      rfl
    · intro sequence
      have response : (client.login shown).authResponse =
          NativePassword.response client.password challenge.scramble.toList := by
        rw [← scramble, Client.login]
      exact logsIn_negotiated welcome phase put (Client.decode_login shown conforms)
        (Client.negotiated_login shown conforms) rfl rfl response
  · intro first login read username database plugin
    refine ⟨_, ⟨first.sequence + 1, _⟩,
      NativePassword.response client.password challenge.scramble.toList,
      perform_unnegotiated Registries.services first phase put read plugin, rfl,
      client.answerSwitch_encode challenge.scramble, ?_⟩
    intro sequence
    exact logsIn_switchWay welcome phase put read plugin username database rfl

end Admission

def cashier : Client where
  capabilities := .serverDefault
  username := "cashier"
  password := "till"
  database := some "ledger"

def branch : Registries where
  users := .ofList [{ username := "cashier", password := "till", grants := ["ledger"] }]
  schemas := .ofList [{ name := "ledger" }]

/-- A login of the cashier that has no response yet and names no plugin. -/
def unmarkedLogin : LoginPacket where
  capabilities := .serverDefault
  username := "cashier"
  database := some "ledger"

def unmarkedPacket : Inbound Registries := ⟨branch, 1, unmarkedLogin.encode⟩

theorem cashier_is_admitted :
    let scramble := FixedBytes.zero 20
    let before := (Exchange.fresh {} defaultServerVersion "localhost" {}).greeted scramble
    let challenge : Challenge := { connectionId := 1, scramble }
    (∃ payload,
      cashier.answerGreeting (Greeting.ofScramble defaultServerVersion 1 scramble).encode =
        .ok payload ∧
      ∀ sequence, LogsIn cashier challenge before ⟨branch, sequence, payload⟩) ∧
    ∃ asking request payload,
      perform Registries.services before unmarkedPacket.call =
        (.concluded .switchRequested, asking) ∧
      asking.sent = before.sent ++ [request] ∧
      cashier.answerSwitch (request.packet.encode asking.handshake.capabilities) = .ok payload ∧
      ∀ sequence, LogsIn cashier challenge asking ⟨branch, sequence, payload⟩ := by
  intro scramble before challenge
  have conforms : cashier.Conforms :=
    ⟨by decide, by decide, by decide, by decide, by decide, by decide⟩
  have offered : Offered before challenge
      (Greeting.ofScramble defaultServerVersion 1 scramble).encode := by
    have named : Utf8.ZeroFree defaultServerVersion := by decide
    exact .greeted {} defaultServerVersion "localhost" {} scramble 1 _ before named
      (run_greet _ scramble rfl rfl) rfl
  have welcome : branch.Welcomes cashier := by
    constructor
    · refine ⟨{ username := "cashier", password := "till", grants := ["ledger"] }, ?_, rfl, ?_⟩
      · decide +kernel
      · intro name asked
        cases asked
        decide
    · intro name asked
      cases asked
      decide +kernel
  have admitted := conforming_client_is_admitted cashier conforms offered branch welcome
  refine ⟨admitted.1, ?_⟩
  have decoded : LoginPacket.decode unmarkedPacket.payload = .ok unmarkedLogin := by
    decide +kernel
  exact admitted.2 unmarkedPacket unmarkedLogin decoded rfl rfl rfl

end Handshake

end SqlGate
