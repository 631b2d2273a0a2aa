import SqlGate.Proofs.Handshake.Turn
import SqlGate.Proofs.Packet.Login
import SqlGate.Proofs.Packet.Size

/-!
# What a reply of a handshake repeats

A refusal repeats the host and names that the client chose, and a name takes more bytes
when it is written than when it was read. Of a client whose packets are no longer than
a limit, no reply repeats more than the limit allows.
-/

namespace SqlGate

set_option autoImplicit false

def LoginAttempt.namesSize (attempt : LoginAttempt) : Nat :=
  attempt.username.utf8ByteSize + (attempt.database.getD "").utf8ByteSize

/-- A refusal fills the slots of its words with the host and with names of the client. -/
inductive ServerPacket.Answers (plugin host : String) (names : Nat) : ServerPacket → Prop where
  | ok : Answers plugin host names (.ok {})
  | switchRequest (scramble : Scramble) :
      Answers plugin host names (.switchRequest { plugin, data := scramble.toList })
  | refusal
      (code : ErrorCode)
      (values : List String)
      (fills : values.length = code.template.slots)
      (repeats : Template.valuesSize values ≤ 3 + host.utf8ByteSize + names) :
      Answers plugin host names (.err (code.packet values))

theorem ErrorCode.wordsSize_le (code : ErrorCode) : code.template.wordsSize ≤ 106 := by
  cases code <;> decide

section Size

variable {plugin host : String}
variable {names : Nat}
variable {packet : ServerPacket}
variable {capabilities : Capabilities}

/-- However the names are chosen, an answer is not much longer than they are. -/
theorem ServerPacket.Answers.length_encode_le
    (answers : packet.Answers plugin host names)
    (speaks : capabilities.has .protocol41 = true) :
    (packet.encode capabilities).length ≤
      118 + plugin.utf8ByteSize + host.utf8ByteSize + names := by
  cases answers with
  | ok =>
      have short := OkPacket.length_encode_default_le capabilities
      rw [ServerPacket.encode]
      omega
  | switchRequest scramble =>
      have exact := SwitchRequest.length_encode { plugin, data := scramble.toList }
      have fixed := scramble.length_toList
      rw [ServerPacket.encode]
      simp only at exact
      omega
  | refusal code values fills repeats =>
      -- Nine bytes come before the words, and the values count three for a fixed one.
      have exact := ErrorCode.length_encode_packet code values speaks
      have words := code.wordsSize_le
      rw [← fills, List.take_length] at exact
      rw [ServerPacket.encode]
      omega

theorem ServerPacket.Answers.mono
    {more : Nat}
    (answers : packet.Answers plugin host names)
    (fewer : names ≤ more) :
    packet.Answers plugin host more := by
  cases answers with
  | ok => exact .ok
  | switchRequest scramble => exact .switchRequest scramble
  | refusal code values fills repeats => exact .refusal code values fills (by omega)

end Size

namespace Handshake

theorem utf8ByteSize_usingPassword_le (attempt : LoginAttempt) :
    attempt.usingPassword.utf8ByteSize ≤ 3 := by
  unfold LoginAttempt.usingPassword
  split <;> decide

theorem length_refusalValues (host : String) (attempt : LoginAttempt) (code : ErrorCode) :
    (refusalValues host attempt code).length = code.template.slots := by
  cases code <;> rfl

theorem valuesSize_refusalValues_le (host : String) (attempt : LoginAttempt) (code : ErrorCode) :
    Template.valuesSize (refusalValues host attempt code) ≤
      3 + host.utf8ByteSize + attempt.namesSize := by
  have password := utf8ByteSize_usingPassword_le attempt
  unfold LoginAttempt.namesSize
  cases code with
  | databaseDenied =>
      simp only [refusalValues, Template.valuesSize_cons, Template.valuesSize_nil]
      omega
  | accessDenied =>
      simp only [refusalValues, Template.valuesSize_cons, Template.valuesSize_nil]
      omega
  | unknownDatabase =>
      simp only [refusalValues, Template.valuesSize_cons, Template.valuesSize_nil]
      omega
  | badHandshake => exact Nat.zero_le _
  | unknownCommand => exact Nat.zero_le _
  | unsupportedAuthMode => exact Nat.zero_le _

theorem answers_ruling
    (services : Services)
    (plugin host : String)
    (challenge : Challenge)
    (attempt : LoginAttempt) :
    (ruling services host challenge attempt).packet.Answers plugin host attempt.namesSize := by
  have repeats := valuesSize_refusalValues_le host attempt
  have ruled := ruled_ruling services host challenge attempt
  generalize ruling services host challenge attempt = verdict at ruled ⊢
  cases ruled with
  | unknownSchema missing => exact .refusal _ _ (length_refusalValues ..) (repeats _)
  | refused schema code found denied =>
      exact .refusal code _ (length_refusalValues ..) (repeats code)
  | admitted schema found passed => exact .ok

end Handshake

namespace Exchange

open Handshake

/-- An exchange with this host whose names came in packets no longer than a limit. -/
structure Brief (limit : Nat) (host : String) (exchange : Exchange) : Prop where
  host : exchange.handshake.host = host
  speaks : exchange.handshake.capabilities.has .protocol41 = true
  attempt : ∀ attempt, exchange.handshake.attempt = some attempt →
    attempt.namesSize ≤ 3 * limit
  username : (exchange.backend.username.getD "").utf8ByteSize ≤ 3 * limit

variable {limit : Nat}
variable {host : String}
variable {exchange : Exchange}

theorem Brief.answering (brief : exchange.Brief limit host) (sequence : UInt8) :
    (exchange.answering sequence).Brief limit host :=
  ⟨brief.host, brief.speaks, brief.attempt, brief.username⟩

theorem Brief.recorded
    (brief : exchange.Brief limit host)
    {challenge : Challenge}
    {payload : Bytes}
    {login : LoginPacket}
    (put : exchange.handshake.challenge = some challenge)
    (decoded : LoginPacket.decode payload = .ok login)
    (short : payload.length ≤ limit) :
    (exchange.recorded login).Brief limit host := by
  obtain ⟨legible, names⟩ := LoginPacket.decode_ensures decoded
  refine ⟨brief.host, ?_, ?_, brief.username⟩
  · simp only [Exchange.recorded, record, capabilities, put, Option.map_some]
    exact legible.protocol41
  · intro attempt made
    cases made
    change login.namesSize ≤ 3 * limit
    omega

theorem Brief.responded
    (brief : exchange.Brief limit host)
    {attempt : LoginAttempt}
    (made : exchange.handshake.attempt = some attempt)
    (response : Bytes) :
    (exchange.responded attempt response).Brief limit host := by
  refine ⟨brief.host, brief.speaks, ?_, brief.username⟩
  intro later same
  cases same
  exact brief.attempt attempt made

theorem Brief.replied
    (brief : exchange.Brief limit host)
    (packet : ServerPacket)
    (phase : Phase) :
    (exchange.replied packet phase).Brief limit host :=
  ⟨brief.host, brief.speaks, brief.attempt, brief.username⟩

theorem Brief.ruled
    (brief : exchange.Brief limit host)
    {services : Services}
    {challenge : Challenge}
    {attempt : LoginAttempt}
    (names : attempt.namesSize ≤ 3 * limit)
    {verdict : Ruling}
    (made : verdict = ruling services host challenge attempt) :
    (exchange.ruled verdict).Brief limit host := by
  have ruled := ruled_ruling services host challenge attempt
  rw [← made] at ruled
  refine ⟨brief.host, brief.speaks, brief.attempt, ?_⟩
  cases ruled with
  | unknownSchema missing => exact brief.username
  | refused schema code found denied => exact brief.username
  | admitted schema found passed =>
      change attempt.username.utf8ByteSize ≤ 3 * limit
      unfold LoginAttempt.namesSize at names
      omega

end Exchange

namespace Handshake

open Exchange

section Turn

variable {limit : Nat}
variable {host : String}
variable {before after : Exchange}
variable {packet : Inbound Services}
variable {call : Call Services}
variable {answer : Answer}

theorem brief_turn
    (brief : before.Brief limit host)
    (short : packet.payload.length ≤ limit)
    (turn : Turn id before call answer after)
    (arrives : call = packet.call) :
    after.Brief limit host := by
  have answering := brief.answering packet.sequence
  cases turn with
  | greeted scramble phase unput => cases arrives
  | greetedAlready scramble put phase => cases arrives
  | malformed given challenge problem phase put broken =>
      cases Inbound.eq_of_call_eq arrives
      exact ⟨answering.host, answering.speaks, answering.attempt, answering.username⟩
  | judged given challenge login phase put decoded plugin verdict made =>
      cases Inbound.eq_of_call_eq arrives
      have names := (LoginPacket.decode_ensures decoded).2
      rw [brief.host] at made
      apply (answering.recorded put decoded short).ruled _ made
      change login.namesSize ≤ 3 * limit
      omega
  | switched given challenge login phase put decoded plugin =>
      cases Inbound.eq_of_call_eq arrives
      exact (answering.recorded put decoded short).replied _ .methodMismatch
  | judgedAnew given challenge attempt phase put recorded verdict made =>
      cases Inbound.eq_of_call_eq arrives
      have names := brief.attempt attempt recorded
      rw [brief.host] at made
      exact (answering.responded recorded packet.payload).ruled
        (show { attempt with authResponse := packet.payload }.namesSize ≤ 3 * limit from names) made
  | untimely given notFast notSwitched => exact brief

/-- A reply follows the number of its packet, and repeats no more than the packet, or
the attempt before it, brought. -/
theorem answers_turn
    {reply : Outbound}
    (brief : before.Brief limit host)
    (short : packet.payload.length ≤ limit)
    (turn : Turn id before call answer after)
    (arrives : call = packet.call)
    (sends : after.sent = before.sent ++ [reply]) :
    reply.sequence = packet.sequence + 1 ∧
      reply.packet.Answers packet.source.policy.plugin host (3 * limit) := by
  cases turn with
  | greeted scramble phase unput => cases arrives
  | greetedAlready scramble put phase => cases arrives
  | malformed given challenge problem phase put broken =>
      cases Inbound.eq_of_call_eq arrives
      have same := List.append_cancel_left sends
      cases same
      exact ⟨rfl, .refusal .badHandshake [] rfl (Nat.zero_le _)⟩
  | judged given challenge login phase put decoded plugin verdict made =>
      cases Inbound.eq_of_call_eq arrives
      have same := List.append_cancel_left sends
      cases same
      have names : (LoginAttempt.ofPacket login).namesSize ≤ 3 * packet.payload.length :=
        (LoginPacket.decode_ensures decoded).2
      rw [brief.host] at made
      rw [made]
      exact ⟨rfl, (answers_ruling _ _ host challenge _).mono (by omega)⟩
  | switched given challenge login phase put decoded plugin =>
      cases Inbound.eq_of_call_eq arrives
      have same := List.append_cancel_left sends
      cases same
      exact ⟨rfl, .switchRequest challenge.scramble⟩
  | judgedAnew given challenge attempt phase put recorded verdict made =>
      cases Inbound.eq_of_call_eq arrives
      have same := List.append_cancel_left sends
      cases same
      rw [brief.host] at made
      rw [made]
      exact ⟨rfl, (answers_ruling _ _ host challenge _).mono (brief.attempt attempt recorded)⟩
  | untimely given notFast notSwitched =>
      exact absurd (List.self_eq_append_right.mp sends) (List.cons_ne_nil _ _)

end Turn

end Handshake

end SqlGate
