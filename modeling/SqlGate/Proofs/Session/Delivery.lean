import SqlGate.Proofs.Handshake.Answers
import SqlGate.Proofs.Session.Moves

/-!
# Which replies are delivered

A reply that outgrows its frame is not delivered, and the session ends over it. While
the packets of the client leave room for the names that a refusal repeats, every reply
is delivered. A command can leave no room.
-/

namespace SqlGate

set_option autoImplicit false

namespace Command

variable {services : Services}
variable {host name : String}
variable {payload : Bytes}
variable {backend : Backend}

theorem utf8ByteSize_selectSchema_le (asks : ofPayload payload = .selectSchema name) :
    name.utf8ByteSize ≤ 3 * payload.length := by
  obtain ⟨body, rfl, rfl⟩ := ofPayload_selectSchema_iff.mp asks
  have grows := Utf8.utf8ByteSize_decodeLossy_le body
  rw [List.length_cons]
  omega

theorem answers_respond
    (services : Services)
    (plugin host : String)
    (backend : Backend)
    {frame : Frame}
    (stays : frame.isFarewell = false) :
    ∃ reply changed,
      respond services host frame.sequence frame.payload backend = ⟨.goOn, some reply, changed⟩ ∧
        reply.sequence = frame.sequence + 1 ∧
        reply.packet.Answers plugin host
          ((backend.username.getD "").utf8ByteSize + 3 * frame.payload.length) ∧
        changed.username = backend.username := by
  have responds := responds_respond services host backend frame.sequence frame.payload
  generalize respond services host frame.sequence frame.payload backend = response at responds ⊢
  cases responds with
  | left asks =>
      rw [Frame.isFarewell, asks] at stays
      cases stays
  | alive asks => exact ⟨_, _, rfl, rfl, .ok, rfl⟩
  | unknown asks => exact ⟨_, _, rfl, rfl, .refusal .unknownCommand [] rfl (Nat.zero_le _), rfl⟩
  | denied name asks ungranted =>
      have short := utf8ByteSize_selectSchema_le asks
      refine ⟨_, _, rfl, rfl, .refusal _ _ rfl ?_, rfl⟩
      simp only [Template.valuesSize_cons, Template.valuesSize_nil]
      omega
  | missing name asks granted unresolved =>
      have short := utf8ByteSize_selectSchema_le asks
      refine ⟨_, _, rfl, rfl, .refusal _ _ rfl ?_, rfl⟩
      simp only [Template.valuesSize_cons, Template.valuesSize_nil]
      omega
  | selected name schema asks granted found => exact ⟨_, _, rfl, rfl, .ok, rfl⟩

end Command

namespace Session

open Handshake

variable {limit : Nat}
variable {settings : Settings}
variable {ids : ConnectionIds}
variable {scramble : Scramble}
variable {session : Session}

/-- The host of a session is the one of its settings, and its names came in packets of
the client. -/
structure Terse (limit : Nat) (settings : Settings) (session : Session) : Prop where
  configured : session.settings = settings
  brief : session.exchange.Brief limit settings.host

theorem Terse.carrying (terse : Terse limit settings session) (transport : Transport) :
    Terse limit settings (session.carrying transport) :=
  ⟨terse.configured, terse.brief⟩

theorem terse_start (settings : Settings) (ids : ConnectionIds) (scramble : Scramble) :
    Terse limit settings (start settings ids scramble).1 := by
  have brief : (greeting settings ids scramble).Brief limit settings.host := by
    refine ⟨rfl, Capabilities.serverDefault_protocol41.1, ?_, Nat.zero_le _⟩
    intro attempt made
    cases made
  obtain ⟨outbound, sent⟩ : ∃ outbound, (greeting settings ids scramble).sent = [outbound] :=
    ⟨_, rfl⟩
  rw [start_eq, sent, write_single]
  split
  · exact ⟨rfl, brief⟩
  · exact ⟨rfl, brief⟩

structure Replies
    (limit : Nat)
    (services : Services)
    (session : Session)
    (frame : Frame)
    (outcome : Outcome)
    (reply : Outbound)
    (after : Exchange) :
    Prop where
  accepts : Accepts services { session.exchange with sent := [] } frame outcome reply after
  follows : reply.sequence = frame.sequence + 1
  answers : reply.packet.Answers services.policy.plugin session.settings.host (3 * limit)
  brief : after.Brief limit session.settings.host

theorem replies_of_awaits
    (terse : Terse limit settings session)
    (awaits : AwaitsPacket session.exchange.handshake)
    (services : Services)
    {frame : Frame}
    (short : frame.payload.length ≤ limit) :
    ∃ outcome reply after, Replies limit services session frame outcome reply after := by
  have brief := terse.brief
  rw [← terse.configured] at brief
  let unsent : Exchange := { session.exchange with sent := [] }
  have unsentBrief : unsent.Brief limit session.settings.host :=
    ⟨brief.host, brief.speaks, brief.attempt, brief.username⟩
  have unsentAwaits : AwaitsPacket unsent.handshake := awaits
  obtain ⟨outcome, reply, after, accepts⟩ := accepts_of_awaits unsentAwaits services frame
  let packet : Inbound Services := ⟨services, frame.sequence, frame.payload⟩
  have shortPacket : packet.payload.length ≤ limit := short
  obtain ⟨follows, answers⟩ :=
    answers_turn unsentBrief shortPacket accepts.turn rfl accepts.sends
  exact ⟨outcome, reply, after, accepts, follows, answers,
    brief_turn unsentBrief shortPacket accepts.turn rfl⟩

theorem terse_reached (reached : Reached limit settings ids scramble session) :
    Terse limit settings session := by
  induction reached with
  | greets => exact terse_start settings ids scramble
  | takesIn event goesOn before terse =>
      rw [absorb_carrying]
      exact terse.carrying _
  | @answersLogin session frame rest services moves short before terse =>
      have stage := stage_of_answerLogin moves
      have awaits := (lawful_reached before).awaits stage
      obtain ⟨outcome, reply, after, replies⟩ := replies_of_awaits terse awaits services short
      have brief := replies.brief
      rw [terse.configured] at brief
      rw [@answerLogin_accepted services { session with unread := rest } frame outcome reply after
        stage replies.accepts]
      split
      · cases outcome <;> exact ⟨terse.configured, brief⟩
      · exact ⟨terse.configured, brief⟩
  | @answersCommand session frame rest services moves short before terse =>
      have stage := stage_of_answerCommand moves
      let reading : Session := { session with unread := rest }
      cases leaves : frame.isFarewell with
      | true =>
          rw [@answerCommand_farewell services reading frame stage leaves]
          exact ⟨terse.configured, terse.brief⟩
      | false =>
          obtain ⟨reply, changed, responds, _, _, same⟩ := Command.answers_respond services
            services.policy.plugin session.settings.host session.exchange.backend leaves
          have brief : { session.exchange with backend := changed }.Brief limit settings.host := by
            refine ⟨terse.brief.host, terse.brief.speaks, terse.brief.attempt, ?_⟩
            rw [same]
            exact terse.brief.username
          rw [@answerCommand_other services reading frame reply changed stage responds]
          split
          · exact ⟨terse.configured, brief⟩
          · exact ⟨terse.configured, brief⟩
  | @finishes session result moves before terse => exact ⟨terse.configured, terse.brief⟩

/-- The reply is the next frame that is written, unless it outgrows its frame. Then
nothing is written, and the session ends over it. -/
def Delivers (before after : Session) (reply : Frame) : Prop :=
  if reply.payload.length ≤ Frame.maxPayload then after.written = before.written.push reply
  else
    after.written = before.written ∧
      after.result? = some (.error (.ofWire (.oversized reply.payload.length)))

theorem delivers_answerLogin
    {services : Services}
    {frame : Frame}
    {outcome : Outcome}
    {reply : Outbound}
    {after : Exchange}
    (stage : session.stage = .login)
    (accepts : Accepts services { session.exchange with sent := [] } frame outcome reply after) :
    Delivers session (session.answerLogin services frame)
      (reply.frame after.handshake.capabilities) := by
  unfold Delivers
  rw [answerLogin_accepted stage accepts]
  split
  · cases outcome <;> simp [conclude, wrote, finish]
  · exact ⟨rfl, rfl⟩

theorem delivers_answerCommand
    {services : Services}
    {frame : Frame}
    {reply : Outbound}
    {changed : Backend}
    (stage : session.stage = .commands)
    (responds : Command.respond services session.settings.host frame.sequence frame.payload
      session.exchange.backend = ⟨.goOn, some reply, changed⟩) :
    Delivers session (session.answerCommand services frame)
      (reply.frame session.exchange.handshake.capabilities) := by
  unfold Delivers
  rw [answerCommand_other stage responds]
  split
  · simp [wrote]
  · exact ⟨rfl, rfl⟩

/-- Each packet has one reply, to a command that is no farewell as to a login. The reply
is written unless it outgrows its frame, and how far it can grow follows from the longest
packet of the client. -/
theorem reply_is_lost_to_its_size_alone
    (reached : Reached limit settings ids scramble session)
    (services : Services)
    {frame : Frame}
    {rest : Bytes}
    (short : frame.payload.length ≤ limit) :
    let plugin := services.policy.plugin
    let room := 118 + plugin.utf8ByteSize + settings.host.utf8ByteSize
    let reading : Session := { session with unread := rest }
    (session.nextMove = .answerLogin frame rest →
      ∃ outcome reply exchange,
        (receive services frame.sequence frame.payload).run
            { session.exchange with sent := [] } = .ok outcome exchange ∧
          exchange.sent = [reply] ∧
          reply.sequence = frame.sequence + 1 ∧
          reply.packet.Answers plugin settings.host (3 * limit) ∧
          let answer := reply.frame exchange.handshake.capabilities
          answer.payload.length ≤ room + 3 * limit ∧
            Delivers session (reading.answerLogin services frame) answer) ∧
    (session.nextMove = .answerCommand frame rest → frame.isFarewell = false →
      ∃ reply backend,
        Command.respond services settings.host frame.sequence frame.payload
            session.exchange.backend = ⟨.goOn, some reply, backend⟩ ∧
          reply.sequence = frame.sequence + 1 ∧
          reply.packet.Answers plugin settings.host (6 * limit) ∧
          let answer := reply.frame session.exchange.handshake.capabilities
          answer.payload.length ≤ room + 6 * limit ∧
            Delivers session (reading.answerCommand services frame) answer) ∧
    (session.nextMove = .answerCommand frame rest → frame.isFarewell = true →
      (reading.answerCommand services frame).written = session.written ∧
        (reading.answerCommand services frame).result? = some (.ok ())) := by
  intro plugin room reading
  have terse := terse_reached reached
  have host := congrArg Settings.host terse.configured
  refine ⟨?_, ?_, ?_⟩
  · intro moves
    have stage := stage_of_answerLogin moves
    have awaits := (lawful_reached reached).awaits stage
    obtain ⟨outcome, reply, after, replies⟩ := replies_of_awaits terse awaits services short
    have answers := replies.answers
    rw [host] at answers
    refine ⟨outcome, reply, after, replies.accepts.ran, replies.accepts.sends, replies.follows,
      answers, answers.length_encode_le replies.brief.speaks, ?_⟩
    exact @delivers_answerLogin reading services frame outcome reply after stage replies.accepts
  · intro moves stays
    have stage := stage_of_answerCommand moves
    obtain ⟨reply, backend, responds, follows, answers, _⟩ :=
      Command.answers_respond services plugin settings.host session.exchange.backend stays
    -- The user's name came in one packet, and the name of the schema in another.
    have username := terse.brief.username
    have repeated := answers.mono (show _ ≤ 6 * limit by omega)
    refine ⟨reply, backend, responds, follows, repeated,
      repeated.length_encode_le terse.brief.speaks, ?_⟩
    rw [← host] at responds
    exact @delivers_answerCommand reading services frame reply backend stage responds
  · intro moves leaves
    have stage := stage_of_answerCommand moves
    rw [@answerCommand_farewell services reading frame stage leaves]
    exact ⟨rfl, rfl⟩

def rootLogin : Frame :=
  ⟨1, LoginPacket.encode
    { capabilities := .serverDefault, username := "root", plugin := some nativePasswordPlugin }⟩

/-- A server with a user who has no password and may select every schema. There are
none. -/
def rootServices : Services :=
  .ofRegistries (.ofList [{ username := "root" }]) {}

theorem login_of_root_is_delivered :
    let before := (start {} {} (FixedBytes.zero 20)).1.absorb (.bytes rootLogin.bytes)
    ∃ reply,
      (({ before with unread := [] }).answerLogin rootServices rootLogin).written =
        before.written.push reply := by
  intro before
  have reached : Reached 100 {} {} (FixedBytes.zero 20) before :=
    .takesIn _ (by decide +kernel) .greets
  have fits : rootLogin.payload.length ≤ 100 := by decide +kernel
  have found := Frame.read?_bytes rootLogin [] (Nat.le_trans fits (by decide))
  have moves : before.nextMove = .answerLogin rootLogin [] := by
    rw [List.append_nil] at found
    have unread : before.unread = rootLogin.bytes := by decide +kernel
    have stage : before.stage = .login := rfl
    simp only [nextMove, stage, unread, found]
  obtain ⟨outcome, reply, exchange, _, _, _, _, size, delivers⟩ :=
    (reply_is_lost_to_its_size_alone reached rootServices fits).1 moves
  refine ⟨reply.frame exchange.handshake.capabilities, ?_⟩
  have small := Nat.le_trans size (show _ ≤ Frame.maxPayload by decide +kernel)
  exact (if_pos small).mp delivers

def selection (name : Bytes) : Frame := ⟨0, 0x02 :: name⟩

theorem length_payload_selection (name : Bytes) :
    (selection name).payload.length = name.length + 1 := rfl

theorem respond_selection
    (host : String)
    (sequence : UInt8)
    (name : Bytes)
    {backend : Backend}
    (user : backend.username = some "root") :
    Command.respond rootServices host sequence (0x02 :: name) backend =
      ⟨.goOn,
        some ⟨sequence + 1, .err (ErrorCode.unknownDatabase.packet [Utf8.decodeLossy name])⟩,
        backend⟩ := by
  have permitted : rootServices.policy.permits "root" (Utf8.decodeLossy name) = true := rfl
  have missing : rootServices.resolve (Utf8.decodeLossy name) = none := rfl
  have asks : Command.ofPayload (0x02 :: name) = .selectSchema (Utf8.decodeLossy name) := rfl
  have refuses : Command.selectSchemaFor rootServices host (Utf8.decodeLossy name) backend =
      .error (.unknownDatabase, [Utf8.decodeLossy name]) := by
    rw [Command.selectSchemaFor, user, Option.getD_some]
    simp only [permitted, missing, if_true]
  simp only [Command.respond, asks, refuses]
  rfl

structure ServesRoot (session : Session) : Prop where
  stage : session.stage = .commands
  user : session.exchange.backend.username = some "root"
  speaks : session.exchange.handshake.capabilities.has .protocol41 = true
  read : session.unread = []
  listens : session.inputEnded = false
  steady : session.stopping = false

/-- The name of a schema that does not exist comes back three times as long when none of
its bytes begins a character. -/
theorem handle_selection
    {session : Session}
    (serves : ServesRoot session)
    (count : Nat)
    (fits : count < Frame.maxPayload)
    (long : Frame.maxPayload < 28 + 3 * count) :
    let final :=
      handle rootServices session (.bytes (selection (List.replicate count 0xFF)).bytes)
    final.written = session.written ∧
      final.answered = session.answered + 1 ∧
      final.result? = some (.error (.ofWire (.oversized (28 + 3 * count)))) := by
  intro final
  let frame := selection (List.replicate count 0xFF)
  have goesOn : session.isEnded = false := by rw [isEnded, serves.stage]
  have framed : frame.payload.length ≤ Frame.maxPayload := by
    rw [length_payload_selection, List.length_replicate]
    omega
  have found : Frame.read? (session.unread ++ frame.bytes) = some (frame, []) := by
    rw [serves.read, List.nil_append, ← List.append_nil frame.bytes]
    exact Frame.read?_bytes frame [] framed
  let loaded : Session := { session with unread := session.unread ++ frame.bytes }
  let reading : Session := loaded.carrying { loaded.transport with unread := [] }
  have ran : final = run rootServices loaded := by
    have absorbed : session.absorb (.bytes frame.bytes) = loaded := by
      rw [absorb, if_neg (ne_true_of_eq_false serves.listens)]
    rw [← absorbed]
    exact if_neg (ne_true_of_eq_false goesOn)
  let reply : Outbound :=
    ⟨1, .err (ErrorCode.unknownDatabase.packet [Utf8.decodeLossy (List.replicate count 0xFF)])⟩
  have size : (reply.frame session.exchange.handshake.capabilities).payload.length =
      28 + 3 * count := by
    have exact := ErrorCode.length_encode_packet .unknownDatabase
      [Utf8.decodeLossy (List.replicate count 0xFF)] serves.speaks
    have words : ErrorCode.unknownDatabase.template.wordsSize = 19 := by decide
    have slots : ErrorCode.unknownDatabase.template.slots = 1 := rfl
    rw [words, slots, List.take_succ_cons, List.take_zero, Template.valuesSize_cons,
      Template.valuesSize_nil, Utf8.utf8ByteSize_decodeLossy_replicate] at exact
    exact exact.trans (by omega)
  have responds := respond_selection session.settings.host 0 (List.replicate count 0xFF) serves.user
  have answers := (@answerCommand_other rootServices reading frame reply _ serves.stage responds).trans
    (if_neg (by rw [show reading.exchange = session.exchange from rfl, size]; omega))
  rw [show reading.exchange = session.exchange from rfl, size] at answers
  rw [ran, @run_answer rootServices loaded frame [] serves.steady goesOn found,
    @answer_commands rootServices reading frame serves.stage, answers, run_ended rootServices rfl]
  exact ⟨rfl, rfl, rfl⟩

def afterRootLogin : Session :=
  handle rootServices (start {} {} (FixedBytes.zero 20)).1 (.bytes rootLogin.bytes)

theorem servesRoot_afterRootLogin : ServesRoot afterRootLogin where
  stage := by
    have serves : (match afterRootLogin.stage with | .commands => true | _ => false) = true := by
      decide +kernel
    split at serves
    · assumption
    · cases serves
  user := by decide +kernel
  speaks := by decide +kernel
  read := by decide +kernel
  listens := by decide +kernel
  steady := by decide +kernel

/-- A command in a single packet whose reply is never sent. -/
theorem reply_to_long_selection_is_lost :
    let select := selection (List.replicate 5592396 0xFF)
    let final := handle rootServices afterRootLogin (.bytes select.bytes)
    select.payload.length ≤ Frame.maxPayload ∧
      final.answered = 1 ∧
      final.written.toList.map (·.sequence) = [0, 2] ∧
      final.result? = some (.error (.ofWire (.oversized 16777216))) := by
  have fits : (selection (List.replicate 5592396 0xFF)).payload.length ≤ Frame.maxPayload := by
    rw [length_payload_selection, List.length_replicate]
    decide
  obtain ⟨written, answered, result⟩ :=
    handle_selection servesRoot_afterRootLogin 5592396 (by decide) (by decide)
  have greeted : afterRootLogin.written.toList.map (·.sequence) = [0, 2] := by decide +kernel
  have none : afterRootLogin.answered = 0 := by decide +kernel
  rw [← written] at greeted
  rw [none] at answered
  exact ⟨fits, answered, greeted, result⟩

end Session

end SqlGate
