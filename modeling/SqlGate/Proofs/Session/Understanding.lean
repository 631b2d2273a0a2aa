import SqlGate.Proofs.Handshake.Course
import SqlGate.Proofs.Handshake.Decision
import SqlGate.Proofs.Packet.Greeting
import SqlGate.Proofs.Packet.Login
import SqlGate.Proofs.Session.Commands

/-!
# Packets that the client understands

The first packet after the greeting says what the client can do, and from then on the
server lays its packets out for that. So whatever the server sends, the client tells its kind
by the first byte and reads it back in full.
-/

namespace SqlGate

set_option autoImplicit false

def PacketKind.marker : PacketKind → UInt8
  | greeting => 0x0A
  | switchRequest => 0xFE
  | ok => 0x00
  | err => 0xFF

namespace ServerPacket

def decode (capabilities : Capabilities) (payload : Bytes) :
    PacketKind → Except WireError ServerPacket
  | .greeting => (Greeting.decode payload).map greeting
  | .switchRequest => (SwitchRequest.decode payload).map switchRequest
  | .ok => (OkPacket.decode payload capabilities).map ok
  | .err => (ErrPacket.decode payload capabilities).map err

structure Understood (capabilities : Capabilities) (packet : ServerPacket) : Prop where
  marked : (packet.encode capabilities).head? = some packet.kind.marker
  decoded : decode capabilities (packet.encode capabilities) packet.kind = .ok packet

theorem understood_greeting
    (capabilities : Capabilities)
    {serverVersion : String}
    (free : Utf8.ZeroFree serverVersion)
    (connectionId : UInt32)
    (scramble : Scramble) :
    Understood capabilities
      (greeting (Greeting.ofScramble serverVersion connectionId scramble)) where
  marked := rfl
  decoded := by
    have read := Greeting.decode_ofScramble connectionId scramble free
    simp only [encode, kind, decode, read]
    rfl

theorem understood_switchRequest
    (capabilities : Capabilities)
    {plugin : String}
    (free : Utf8.ZeroFree plugin)
    (data : Bytes) :
    Understood capabilities (switchRequest { plugin, data }) where
  marked := rfl
  decoded := by
    have read := @SwitchRequest.decode_encode { plugin, data } rfl free
    simp only [encode, kind, decode, read]
    rfl

section Speaks

variable {capabilities : Capabilities}

theorem understood_ok (speaks : capabilities.has .protocol41 = true) :
    Understood capabilities (ok {}) where
  marked := rfl
  decoded := by
    have read := @OkPacket.decode_encode {} (.inl rfl) capabilities
    rw [OkPacket.received, if_pos speaks] at read
    exact congrArg (Except.map ok) read

theorem understood_err
    (speaks : capabilities.has .protocol41 = true)
    (code : ErrorCode)
    (values : List String) :
    Understood capabilities (err (code.packet values)) where
  marked := rfl
  decoded := by
    have read := @ErrPacket.decode_encode (code.packet values) rfl
      (by decide : (35 : Nat) < 256) capabilities
    rw [ErrPacket.received, if_pos speaks] at read
    exact congrArg (Except.map err) read

end Speaks

end ServerPacket

namespace Command

theorem understood_respond
    {capabilities : Capabilities}
    (speaks : capabilities.has .protocol41 = true)
    (services : Services)
    (host : String)
    (sequence : UInt8)
    (payload : Bytes)
    (backend : Backend) :
    ∀ outbound ∈ (respond services host sequence payload backend).reply,
      outbound.packet.Understood capabilities := by
  have responds := responds_respond services host backend sequence payload
  generalize respond services host sequence payload backend = response at responds ⊢
  intro outbound replied
  cases responds with
  | left asks => cases replied
  | alive asks =>
      cases replied
      exact ServerPacket.understood_ok speaks
  | unknown asks =>
      cases replied
      exact ServerPacket.understood_err speaks _ _
  | denied name asks ungranted =>
      cases replied
      exact ServerPacket.understood_err speaks _ _
  | missing name asks granted unresolved =>
      cases replied
      exact ServerPacket.understood_err speaks _ _
  | selected name schema asks granted found =>
      cases replied
      exact ServerPacket.understood_ok speaks

end Command

namespace Handshake

variable {Source : Type}

/-! ## What the client can do -/

/-- What the client can do: what the server offers, until the first packet after the
greeting tells more. -/
def announced : Option (Scramble × List (Inbound Source)) → Capabilities
  | some (_, first :: _) =>
      match LoginPacket.decode first.payload with
      | .ok login => login.capabilities
      | .error _ => .serverDefault
  | _ => .serverDefault

theorem announced_speaks (opening : Option (Scramble × List (Inbound Source))) :
    (announced opening).has .protocol41 = true := by
  unfold announced
  split
  · split
    · rename_i login decoded
      exact (LoginPacket.decode_ensures decoded).1.protocol41
    · exact Capabilities.serverDefault_protocol41.1
  · exact Capabilities.serverDefault_protocol41.1

theorem announced_ne {opening : Option (Scramble × List (Inbound Source))}
    (changed : announced opening ≠ .serverDefault) :
    ∃ scramble first later login,
      opening = some (scramble, first :: later) ∧
        LoginPacket.decode first.payload = .ok login ∧
        announced opening = login.capabilities := by
  unfold announced at changed
  split at changed
  · rename_i scramble first later
    split at changed
    · rename_i login decoded
      refine ⟨scramble, first, later, login, rfl, decoded, ?_⟩
      simp only [announced, decoded]
    · exact absurd rfl changed
  · exact absurd rfl changed

theorem Progress.capabilities
    {services : Source → Services}
    {start before : Exchange}
    {opening : Option (Scramble × List (Inbound Source))}
    (unput : start.handshake.challenge = none)
    (progress : Progress services start opening before) :
    before.handshake.capabilities = announced opening := by
  cases progress with
  | ungreeted =>
      rw [Handshake.capabilities, unput]
      rfl
  | awaitsLogin scramble => rfl
  | awaitsResponse scramble first login decoded plugin =>
      simp only [announced, decoded]
      rfl
  | malformed scramble first later problem broken =>
      simp only [announced, broken]
      rfl
  | judged scramble packet later login decoded plugin verdict made =>
      simp only [announced, decoded]
      rfl
  | judgedAnew scramble first packet later login decoded plugin verdict made =>
      simp only [announced, decoded]
      rfl

theorem opening?_append
    {earlier : List (Call Source)}
    {scramble : Scramble}
    {packets : List (Inbound Source)}
    (opened : opening? earlier = some (scramble, packets))
    (later : List (Call Source)) :
    opening? (earlier ++ later) = some (scramble, packets ++ received later) := by
  induction earlier with
  | nil => cases opened
  | cons call rest ih =>
      cases call with
      | greet first =>
          cases opened
          simp only [List.cons_append, opening?, received_append]
      | receive source sequence payload => exact ih opened

/-- What a client once said that it can do, it cannot take back. -/
theorem announced_append
    {earlier : List (Call Source)}
    (changed : announced (opening? earlier) ≠ .serverDefault)
    (later : List (Call Source)) :
    announced (opening? (earlier ++ later)) = announced (opening? earlier) := by
  obtain ⟨scramble, first, rest, login, opened, decoded, _⟩ := announced_ne changed
  rw [opening?_append opened later, opened]
  simp only [List.cons_append, announced, decoded]

theorem capabilities_recorded
    {handshake : Handshake}
    {challenge : Challenge}
    (put : handshake.challenge = some challenge)
    (login : LoginPacket) :
    (record handshake login).capabilities = login.capabilities := by
  rw [record, put]
  rfl

/-- A call changes what the server knows of the client only if it is the first packet after
the greeting, and reads as a login. -/
theorem capabilities_turn
    {services : Source → Services}
    {before after : Exchange}
    {call : Call Source}
    {answer : Answer}
    (turn : Turn services before call answer after) :
    after.handshake.capabilities = before.handshake.capabilities ∨
      ∃ (packet : Inbound Source) (login : LoginPacket),
        call = packet.call ∧
        before.handshake.phase = .fastPath ∧
        LoginPacket.decode packet.payload = .ok login ∧
        after.handshake.capabilities = login.capabilities := by
  cases turn with
  | greeted scramble phase unput =>
      apply Or.inl
      rw [Handshake.capabilities, Handshake.capabilities, unput]
      rfl
  | greetedAlready scramble put phase => exact .inl rfl
  | malformed packet challenge problem phase put broken => exact .inl rfl
  | judged packet challenge login phase put decoded plugin verdict made =>
      refine .inr ⟨packet, login, rfl, phase, decoded, ?_⟩
      exact capabilities_recorded put login
  | switched packet challenge login phase put decoded plugin =>
      refine .inr ⟨packet, login, rfl, phase, decoded, ?_⟩
      exact capabilities_recorded put login
  | judgedAnew packet challenge attempt phase put recorded verdict made => exact .inl rfl
  | untimely packet notFast notSwitched => exact .inl rfl

/-! ## What it is sent -/

theorem understood_ruling
    {capabilities : Capabilities}
    (speaks : capabilities.has .protocol41 = true)
    (services : Services)
    (host : String)
    (challenge : Challenge)
    (attempt : LoginAttempt) :
    (ruling services host challenge attempt).packet.Understood capabilities := by
  have ruled := ruled_ruling services host challenge attempt
  generalize ruling services host challenge attempt = verdict at ruled ⊢
  cases ruled with
  | unknownSchema missing => exact ServerPacket.understood_err speaks _ _
  | refused schema code found denied => exact ServerPacket.understood_err speaks _ _
  | admitted schema found passed => exact ServerPacket.understood_ok speaks

theorem understood_one
    {capabilities : Capabilities}
    {before after : Exchange}
    {outbound : Outbound}
    (sent : after.sent = before.sent ++ [outbound])
    (understood : outbound.packet.Understood capabilities) :
    ∃ pushed,
      after.sent = before.sent ++ pushed ∧
        ∀ outbound ∈ pushed, outbound.packet.Understood capabilities := by
  refine ⟨[outbound], sent, ?_⟩
  intro other pushed
  rwa [List.mem_singleton.mp pushed]

/-- The packets that a call sends are laid out for what the client can do after it. -/
theorem understood_turn
    {services : Source → Services}
    {before after : Exchange}
    {call : Call Source}
    {answer : Answer}
    (version : before.handshake.phase = .initial →
      Utf8.ZeroFree before.handshake.replies.serverVersion)
    (plugins : ∀ source, Utf8.ZeroFree (services source).policy.plugin)
    (speaks : after.handshake.capabilities.has .protocol41 = true)
    (turn : Turn services before call answer after) :
    ∃ pushed,
      after.sent = before.sent ++ pushed ∧
        ∀ outbound ∈ pushed, outbound.packet.Understood after.handshake.capabilities := by
  cases turn with
  | greeted scramble phase unput =>
      exact understood_one rfl (ServerPacket.understood_greeting _ (version phase) _ scramble)
  | greetedAlready scramble put phase => exact ⟨[], (List.append_nil _).symm, nofun⟩
  | malformed packet challenge problem phase put broken =>
      exact understood_one rfl (ServerPacket.understood_err speaks _ _)
  | judged packet challenge login phase put decoded plugin verdict made =>
      subst made
      exact understood_one rfl (understood_ruling speaks _ _ _ _)
  | switched packet challenge login phase put decoded plugin =>
      exact understood_one rfl
        (ServerPacket.understood_switchRequest _ (plugins packet.source) _)
  | judgedAnew packet challenge attempt phase put recorded verdict made =>
      subst made
      exact understood_one rfl (understood_ruling speaks _ _ _ _)
  | untimely packet notFast notSwitched => exact ⟨[], (List.append_nil _).symm, nofun⟩

/-- In any sequence of calls on a new connection, and for the commands after it, the client
understands every packet that it is sent, also the answer to a packet at the wrong time. The
server takes the client for what it offered to it, until the first packet after the greeting
says what the client can do. A client of the protocol before 4.1 is turned away there, so the
server never has to speak it. -/
theorem every_packet_is_understood
    (services : Source → Services)
    (ids : ConnectionIds)
    {serverVersion : String}
    (host : String)
    (backend : Backend)
    (version : Utf8.ZeroFree serverVersion)
    (plugins : ∀ source, Utf8.ZeroFree (services source).policy.plugin)
    (calls : List (Call Source)) :
    let start := Exchange.fresh ids serverVersion host backend
    let known := fun calls => (run services start calls).handshake.capabilities
    (known calls).has .protocol41 = true ∧
    known calls = announced (opening? calls) ∧
    (known calls ≠ .serverDefault → ∀ later, known (calls ++ later) = known calls) ∧
    (∀ before call, Meets services start calls before call →
      let after := (perform services before call).2
      (after.handshake.capabilities = before.handshake.capabilities ∨
        ∃ (packet : Inbound Source) (login : LoginPacket),
          call = packet.call ∧
          before.handshake.phase = .fastPath ∧
          LoginPacket.decode packet.payload = .ok login ∧
          after.handshake.capabilities = login.capabilities) ∧
      ∃ pushed,
        after.sent = before.sent ++ pushed ∧
          ∀ outbound ∈ pushed, outbound.packet.Understood after.handshake.capabilities) ∧
    (∀ sequence,
      let outbound := ((ReplyStream.replyTo {} sequence).error .badHandshake []).1
      outbound.packet.Understood (known calls)) ∧
    ∀ served host sequence payload backend,
      ∀ outbound ∈ (Command.respond served host sequence payload backend).reply,
        outbound.packet.Understood (known calls) := by
  intro start known
  have came := progress_run services ids serverVersion host backend
  have knows : ∀ calls, known calls = announced (opening? calls) := by
    intro calls
    exact (came calls).2.capabilities rfl
  have speaks : ∀ calls, (known calls).has .protocol41 = true := by
    intro calls
    rw [knows]
    exact announced_speaks _
  refine ⟨speaks calls, knows calls, ?_, ?_, ?_, ?_⟩
  · intro changed later
    rw [knows] at changed
    rw [knows, knows]
    exact announced_append changed later
  · intro before call meets after
    obtain ⟨earlier, later, split, rfl⟩ := meets
    have turn := turn_perform services (came earlier).1 call
    refine ⟨capabilities_turn turn, understood_turn ?_ plugins ?_ turn⟩
    · -- Only the first call greets, so it shows the version of the new connection.
      intro phase
      obtain ⟨_, unmoved⟩ := (came earlier).2.of_initial phase
      rw [unmoved]
      exact version
    · have spoken := speaks (earlier ++ [call])
      dsimp only [known] at spoken
      rwa [run_append] at spoken
  · intro sequence outbound
    exact ServerPacket.understood_err (speaks calls) _ _
  · intro served host sequence payload backend
    exact Command.understood_respond (speaks calls) served host sequence payload backend

def bareLogin : LoginPacket where
  capabilities := ⟨0x200⟩
  username := "guest"

def barePacket : Inbound Registries := ⟨{}, 1, bareLogin.encode⟩

theorem bare_client_is_understood :
    let start := Exchange.fresh {} defaultServerVersion "localhost" {}
    let calls := [Call.greet (FixedBytes.zero 20), barePacket.call]
    let final := run Registries.services start calls
    final.handshake.capabilities = bareLogin.capabilities ∧
    ∃ greeting request,
      final.sent = [greeting, request] ∧
      request.packet.kind = .switchRequest ∧
      request.packet.Understood bareLogin.capabilities := by
  intro start calls final
  have decoded : LoginPacket.decode barePacket.payload = .ok bareLogin := by decide +kernel
  have performed : perform Registries.services (start.greeted (FixedBytes.zero 20))
      barePacket.call = _ := perform_unnegotiated _ barePacket rfl rfl decoded rfl
  have switched : final = _ := congrArg Prod.snd performed
  obtain ⟨_, _, _, steps, _⟩ := every_packet_is_understood Registries.services {}
    "localhost" {} (by decide : Utf8.ZeroFree defaultServerVersion)
    (fun _ => (by decide : Utf8.ZeroFree nativePasswordPlugin)) calls
  obtain ⟨_, pushed, sent, understood⟩ := steps _ barePacket.call
    ⟨[.greet (FixedBytes.zero 20)], [], rfl, rfl⟩
  have told : final.handshake.capabilities = bareLogin.capabilities := by
    rw [switched]
    rfl
  have pushes := sent.symm.trans (congrArg Exchange.sent switched)
  rw [List.append_cancel_left pushes] at understood
  rw [← told]
  exact ⟨rfl, _, _, congrArg Exchange.sent switched, rfl, understood _ (List.mem_singleton_self _)⟩

end Handshake

end SqlGate
