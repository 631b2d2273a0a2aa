import SqlGate.Proofs.Handshake.Turn
import SqlGate.Proofs.Packet.Login

/-!
# Two ways to one verdict

A client that negotiates the plugin is judged by its login packet. Any other is asked to
switch first and judged by its answer. Both ways end alike if the user, the database and
the response are the same.
-/

namespace SqlGate

set_option autoImplicit false

/-- Flags count only for whether the client speaks the 4.1 protocol. -/
theorem ServerPacket.encode_congr
    {left right : Capabilities}
    (packet : ServerPacket)
    (same : left.has .protocol41 = right.has .protocol41) :
    packet.encode left = packet.encode right := by
  cases packet with
  | greeting packet => rfl
  | ok packet => simp only [encode, OkPacket.encode, same]
  | err packet => simp only [encode, ErrPacket.encode, same]
  | switchRequest request => rfl

/-- What a login leaves apart from its manner: without the packets and their numbers, and
without the flags and the plugin that the client named. -/
def Exchange.substance (exchange : Exchange) : Exchange :=
  { exchange with
    sent := []
    handshake :=
      { exchange.handshake with
        replies := { exchange.handshake.replies with nextSequence := 0 }
        challenge := exchange.handshake.challenge.map fun challenge =>
          { challenge with capabilities := .none }
        attempt := exchange.handshake.attempt.map fun attempt => { attempt with plugin := none } } }

namespace Handshake

variable {Source : Type}

theorem capabilities_of_challenge
    {handshake : Handshake}
    {challenge : Challenge}
    (put : handshake.challenge = some challenge) :
    handshake.capabilities = challenge.capabilities := by
  rw [capabilities, put]

/-- No ruling reads the flags or the plugin. -/
theorem ruling_congr
    (services : Services)
    (host : String)
    {challenge : Challenge}
    {attempt other : LoginAttempt}
    (capabilities : Capabilities)
    (username : other.username = attempt.username)
    (database : other.database = attempt.database)
    (response : other.authResponse = attempt.authResponse) :
    ruling services host { challenge with capabilities } other =
      ruling services host challenge attempt := by
  have schema : requestedSchema services other = requestedSchema services attempt := by
    simp only [requestedSchema, database]
  have words : refusalValues host other = refusalValues host attempt := by
    funext code
    simp only [refusalValues, LoginAttempt.usingPassword, username, database, response]
  simp only [ruling, credentials, schema, words, username, database, response]

section Ways

variable {before : Exchange}
variable {challenge : Challenge}
variable {login other : LoginPacket}

/-- The way by a switch request. The answer is judged as if the challenge were still the
one that the greeting put. -/
theorem perform_switchWay
    (services : Source → Services)
    {first answer : Inbound Source}
    (phase : before.handshake.phase = .fastPath)
    (put : before.handshake.challenge = some challenge)
    (read : LoginPacket.decode first.payload = .ok other)
    (switches : negotiated other (services first.source).policy.plugin = false)
    {verdict : Ruling}
    (made : verdict = ruling (services answer.source) before.handshake.host challenge
      { LoginAttempt.ofPacket other with authResponse := answer.payload }) :
    let asking := ((before.answering first.sequence).recorded other).switched
      (services first.source).policy.plugin challenge.scramble
    perform services before first.call = (.concluded .switchRequested, asking) ∧
      perform services asking answer.call =
        (.concluded verdict.outcome,
          ((asking.answering answer.sequence).responded (.ofPacket other) answer.payload).ruled
            verdict) := by
  intro asking
  constructor
  · exact perform_unnegotiated services first phase put read switches
  · have putAnew : asking.handshake.challenge =
        some { challenge with capabilities := other.capabilities } := challenge_record put other
    apply perform_switchAnswer services answer rfl putAnew rfl
    rw [made]
    exact (ruling_congr (services answer.source) before.handshake.host other.capabilities
      rfl rfl rfl).symm

/-- Under one verdict the two ways leave the same but for their manner. -/
theorem substance_switchWay
    {response : Bytes}
    (put : before.handshake.challenge = some challenge)
    (username : other.username = login.username)
    (database : other.database = login.database)
    (responded : response = login.authResponse)
    (direct first answer : UInt8)
    (plugin : String)
    (verdict : Ruling) :
    let asking := ((before.answering first).recorded other).switched plugin challenge.scramble
    (((asking.answering answer).responded (.ofPacket other) response).ruled verdict).substance =
      (((before.answering direct).recorded login).ruled verdict).substance := by
  intro asking
  simp only [asking, Exchange.substance, Exchange.ruled, Exchange.replied, Exchange.responded,
    Exchange.answering, Exchange.switched, Exchange.recorded, record, put, Option.map_some,
    LoginAttempt.ofPacket, username, database, responded]
  rfl

/-- The same user, database and response come to the same end, whether the login packet
brings the response or the answer to a switch request does. Only the numbers of the
packets differ, and the flags and the plugin that the client named. -/
theorem both_ways_end_alike
    (services : Source → Services)
    {direct first answer : Inbound Source}
    (phase : before.handshake.phase = .fastPath)
    (put : before.handshake.challenge = some challenge)
    (decoded : LoginPacket.decode direct.payload = .ok login)
    (negotiates : negotiated login (services direct.source).policy.plugin = true)
    (read : LoginPacket.decode first.payload = .ok other)
    (switches : negotiated other (services first.source).policy.plugin = false)
    (username : other.username = login.username)
    (database : other.database = login.database)
    (response : answer.payload = login.authResponse)
    (served : services answer.source = services direct.source) :
    let quick := perform services before direct.call
    let asking := perform services before first.call
    let slow := perform services asking.2 answer.call
    asking.1 = .concluded .switchRequested ∧
    ∃ outcome packet,
      outcome.isTerminal = true ∧
        quick.1 = .concluded outcome ∧
        slow.1 = .concluded outcome ∧
        quick.2.sent = before.sent ++ [⟨direct.sequence + 1, packet⟩] ∧
        slow.2.sent = asking.2.sent ++ [⟨answer.sequence + 1, packet⟩] ∧
        packet.encode quick.2.handshake.capabilities =
          packet.encode slow.2.handshake.capabilities ∧
        slow.2.handshake.phase = quick.2.handshake.phase ∧
        slow.2.handshake.authResponse = quick.2.handshake.authResponse ∧
        slow.2.backend = quick.2.backend ∧
        slow.2.substance = quick.2.substance := by
  intro quick asking slow
  let verdict := ruling (services direct.source) before.handshake.host challenge (.ofPacket login)
  have quickly : quick = (.concluded verdict.outcome,
      ((before.answering direct.sequence).recorded login).ruled verdict) :=
    perform_negotiated services direct phase put decoded negotiates rfl
  have same : verdict = ruling (services answer.source) before.handshake.host challenge
      { LoginAttempt.ofPacket other with authResponse := answer.payload } := by
    rw [served]
    exact (ruling_congr (services direct.source) before.handshake.host challenge.capabilities
      username database response).symm
  obtain ⟨asks, answers⟩ := perform_switchWay services phase put read switches same
  have slowly : slow = _ := (congrArg (fun asked => perform services asked.2 answer.call) asks).trans
    answers
  have substance : slow.2.substance = quick.2.substance := by
    rw [quickly, slowly]
    exact substance_switchWay put username database response direct.sequence first.sequence
      answer.sequence (services first.source).policy.plugin verdict
  -- The flags in force are those of the login packet, and both packets speak 4.1.
  have encoded : verdict.packet.encode quick.2.handshake.capabilities =
      verdict.packet.encode slow.2.handshake.capabilities := by
    have quickFlags : quick.2.handshake.capabilities = login.capabilities := by
      rw [quickly]
      exact capabilities_of_challenge (challenge_record put login)
    have slowFlags : slow.2.handshake.capabilities = other.capabilities := by
      rw [slowly]
      exact capabilities_of_challenge (challenge_record put other)
    apply ServerPacket.encode_congr
    rw [quickFlags, slowFlags, (LoginPacket.decode_ensures decoded).1.protocol41,
      (LoginPacket.decode_ensures read).1.protocol41]
  refine ⟨congrArg Prod.fst asks, verdict.outcome, verdict.packet, ruling_isTerminal .., ?_, ?_, ?_,
    ?_, encoded, ?_, ?_, ?_, substance⟩
  · rw [quickly]
  · rw [slowly]
  · rw [quickly]
    rfl
  · rw [slowly, show asking = _ from asks]
    rfl
  · rw [quickly, slowly]
    rfl
  · rw [quickly, slowly]
    exact response
  · rw [quickly, slowly]
    rfl

end Ways

def strangerLogin : LoginPacket where
  capabilities := .serverDefault
  username := "stranger"
  authResponse := [1]
  plugin := some nativePasswordPlugin

/-- The same login with another response, and without the plugin that made it. -/
def strangerInquiry : LoginPacket :=
  { strangerLogin with authResponse := [], plugin := none }

theorem stranger_fares_alike_either_way :
    let services := fun _ : Unit => Services.ofRegistries {} {}
    let before := (Exchange.fresh {} defaultServerVersion "localhost" {}).greeted (FixedBytes.zero 20)
    let direct : Inbound Unit := ⟨(), 1, strangerLogin.encode⟩
    let first : Inbound Unit := ⟨(), 1, strangerInquiry.encode⟩
    let answer : Inbound Unit := ⟨(), 3, [1]⟩
    let quick := perform services before direct.call
    let slow := perform services (perform services before first.call).2 answer.call
    slow.1 = quick.1 ∧ slow.2.substance = quick.2.substance := by
  intro services before direct first answer quick slow
  have decoded : LoginPacket.decode direct.payload = .ok strangerLogin := by decide +kernel
  have read : LoginPacket.decode first.payload = .ok strangerInquiry := by decide +kernel
  obtain ⟨_, outcome, packet, _, ends, endsToo, _, _, _, _, _, _, same⟩ :=
    @both_ways_end_alike _ before _ strangerLogin strangerInquiry services direct first answer
      rfl rfl decoded rfl read rfl rfl rfl rfl rfl
  exact ⟨endsToo.trans ends.symm, same⟩

end Handshake

end SqlGate
