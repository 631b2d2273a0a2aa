import Mathlib.Tactic.SplitIfs
import SqlGate.Proofs.Session.Play

/-!
# The commands of a session

After the login a session answers commands up to the first farewell. Each reply
follows the number of its command, and meets the backend that the commands before
it left.
-/

namespace SqlGate

set_option autoImplicit false

def Frame.isFarewell (frame : Frame) : Bool := Command.ofPayload frame.payload == .quit

def Frame.untilFarewell (frames : List Frame) : List Frame :=
  frames.takeWhile fun frame => !frame.isFarewell

def Command.replies (services : Services) (host : String) :
    Backend → List Frame → List Outbound
  | _, [] => []
  | backend, frame :: rest =>
      let response := respond services host frame.sequence frame.payload backend
      response.reply.toList ++ replies services host response.backend rest

namespace Command

variable (services : Services)
variable (host : String)
variable (backend : Backend)

theorem ofPayload_quit_iff {payload : Bytes} :
    ofPayload payload = .quit ↔ payload.head? = some 0x01 := by
  cases payload with
  | nil => simp [ofPayload]
  | cons code body =>
      dsimp only [ofPayload]
      split_ifs <;> simp_all

theorem ofPayload_selectSchema_iff {payload : Bytes} {name : String} :
    ofPayload payload = .selectSchema name ↔
      ∃ body, payload = 0x02 :: body ∧ Utf8.decodeLossy body = name := by
  cases payload with
  | nil => simp [ofPayload]
  | cons code body =>
      dsimp only [ofPayload]
      split_ifs <;> simp_all

theorem respond_farewell {frame : Frame} (leaves : frame.isFarewell = true) :
    respond services host frame.sequence frame.payload backend = ⟨.close, none, backend⟩ := by
  have quits : ofPayload frame.payload = .quit := eq_of_beq leaves
  simp only [respond, quits]

/-- All that a command can do, by what it asks for. -/
inductive Responds
    (services : Services)
    (host : String)
    (sequence : UInt8)
    (payload : Bytes)
    (backend : Backend) :
    Response → Prop where
  | left (asks : ofPayload payload = .quit) :
      Responds services host sequence payload backend ⟨.close, none, backend⟩
  | alive (asks : ofPayload payload = .ping) :
      Responds services host sequence payload backend
        ⟨.goOn, some ⟨sequence + 1, .ok {}⟩, backend⟩
  | unknown (asks : ofPayload payload = .unknown) :
      Responds services host sequence payload backend
        ⟨.goOn, some ⟨sequence + 1, .err (ErrorCode.unknownCommand.packet [])⟩, backend⟩
  | denied
      (name : String)
      (asks : ofPayload payload = .selectSchema name)
      (ungranted : services.policy.permits (backend.username.getD "") name = false) :
      Responds services host sequence payload backend
        ⟨.goOn,
          some ⟨sequence + 1,
            .err (ErrorCode.databaseDenied.packet [backend.username.getD "", host, name])⟩,
          backend⟩
  | missing
      (name : String)
      (asks : ofPayload payload = .selectSchema name)
      (granted : services.policy.permits (backend.username.getD "") name = true)
      (unresolved : services.resolve name = none) :
      Responds services host sequence payload backend
        ⟨.goOn, some ⟨sequence + 1, .err (ErrorCode.unknownDatabase.packet [name])⟩, backend⟩
  | selected
      (name : String)
      (schema : Schema)
      (asks : ofPayload payload = .selectSchema name)
      (granted : services.policy.permits (backend.username.getD "") name = true)
      (found : services.resolve name = some schema) :
      Responds services host sequence payload backend
        ⟨.goOn, some ⟨sequence + 1, .ok {}⟩, { backend with schema := some schema }⟩

theorem responds_respond (sequence : UInt8) (payload : Bytes) :
    Responds services host sequence payload backend
      (respond services host sequence payload backend) := by
  unfold respond
  cases asks : ofPayload payload with
  | quit => exact .left asks
  | ping => exact .alive asks
  | unknown => exact .unknown asks
  | selectSchema name =>
      dsimp only [selectSchemaFor]
      cases granted : services.policy.permits (backend.username.getD "") name with
      | false => exact .denied name asks granted
      | true =>
          rw [if_pos rfl]
          cases found : services.resolve name with
          | none => exact .missing name asks granted found
          | some schema => exact .selected name schema asks granted found

theorem respond_other {frame : Frame} (stays : frame.isFarewell = false) :
    ∃ packet changed,
      respond services host frame.sequence frame.payload backend =
        ⟨.goOn, some ⟨frame.sequence + 1, packet⟩, changed⟩ := by
  have responds := responds_respond services host backend frame.sequence frame.payload
  generalize respond services host frame.sequence frame.payload backend = response at responds ⊢
  cases responds with
  | left asks =>
      rw [Frame.isFarewell, asks] at stays
      cases stays
  | alive asks => exact ⟨_, _, rfl⟩
  | unknown asks => exact ⟨_, _, rfl⟩
  | denied name asks ungranted => exact ⟨_, _, rfl⟩
  | missing name asks granted unresolved => exact ⟨_, _, rfl⟩
  | selected name schema asks granted found => exact ⟨_, _, rfl⟩

theorem username_respond (sequence : UInt8) (payload : Bytes) :
    (respond services host sequence payload backend).backend.username = backend.username := by
  have responds := responds_respond services host backend sequence payload
  generalize respond services host sequence payload backend = response at responds ⊢
  cases responds with
  | left asks => rfl
  | alive asks => rfl
  | unknown asks => rfl
  | denied name asks ungranted => rfl
  | missing name asks granted unresolved => rfl
  | selected name schema asks granted found => rfl

theorem sequence_replies (frames : List Frame) :
    (replies services host backend (Frame.untilFarewell frames)).map (·.sequence) =
      (Frame.untilFarewell frames).map (·.sequence + 1) := by
  induction frames generalizing backend with
  | nil => rfl
  | cons frame rest ih =>
      cases leaves : frame.isFarewell with
      | true => simp only [Frame.untilFarewell, List.takeWhile, leaves]; rfl
      | false =>
          obtain ⟨packet, changed, responds⟩ := respond_other services host backend leaves
          have kept : Frame.untilFarewell (frame :: rest) = frame :: Frame.untilFarewell rest := by
            simp only [Frame.untilFarewell, List.takeWhile, leaves, Bool.not_false]
          rw [kept, replies, responds]
          simp only [Option.toList_some, List.singleton_append, List.map_cons, ih]

end Command

namespace Session

def Fits (capabilities : Capabilities) (outbound : List Outbound) : Prop :=
  ∀ packet ∈ outbound, (packet.frame capabilities).payload.length ≤ Frame.maxPayload

def wrote (session : Session) (frames : List Frame) : Session :=
  { session with written := session.written ++ frames.toArray }

theorem write_fits
    (session : Session)
    {outbound : List Outbound}
    (fits : Fits session.exchange.handshake.capabilities outbound) :
    session.write outbound =
      session.wrote (outbound.map (·.frame session.exchange.handshake.capabilities)) := by
  induction outbound generalizing session with
  | nil => simp only [write, wrote, List.map_nil, Array.append_empty]
  | cons first rest ih =>
      let frame := first.frame session.exchange.handshake.capabilities
      have encodes : frame.encode = .ok frame.bytes :=
        if_pos (fits first List.mem_cons_self)
      rw [write, encodes]
      dsimp only
      rw [ih { session with written := session.written.push frame } fun packet member =>
        fits packet (List.mem_cons_of_mem first member)]
      simp [wrote, frame]

theorem writeThen_fits
    {session : Session}
    {outbound : List Outbound}
    (goesOn : session.isEnded = false)
    (fits : Fits session.exchange.handshake.capabilities outbound)
    (next : Session → Session) :
    session.writeThen outbound next =
      next (session.wrote (outbound.map (·.frame session.exchange.handshake.capabilities))) := by
  rw [writeThen, write_fits session fits]
  exact if_neg (ne_true_of_eq_false goesOn)

theorem answer_commands
    (services : Services)
    {session : Session}
    {frame : Frame}
    (stage : session.stage = .commands) :
    session.answer services frame = session.answerCommand services frame := by
  rw [answer, stage]

theorem answer_farewell
    (services : Services)
    {session : Session}
    {frame : Frame}
    (stage : session.stage = .commands)
    (leaves : frame.isFarewell = true) :
    session.answer services frame =
      { session with answered := session.answered + 1, stage := .ended (.ok ()) } := by
  have goesOn : session.isEnded = false := by rw [isEnded, stage]
  rw [answer_commands services stage, answerCommand, Command.respond_farewell _ _ _ leaves]
  simp only [Option.toList_none, writeThen, write]
  exact if_neg (ne_true_of_eq_false goesOn)

theorem answer_other
    {services : Services}
    {session : Session}
    {frame : Frame}
    {packet : ServerPacket}
    {changed : Backend}
    (stage : session.stage = .commands)
    (responds : Command.respond services session.settings.host frame.sequence frame.payload
      session.exchange.backend = ⟨.goOn, some ⟨frame.sequence + 1, packet⟩, changed⟩)
    (fits : Fits session.exchange.handshake.capabilities [⟨frame.sequence + 1, packet⟩]) :
    session.answer services frame =
      wrote
        { session with
          answered := session.answered + 1
          exchange := { session.exchange with backend := changed } }
        [Outbound.frame ⟨frame.sequence + 1, packet⟩ session.exchange.handshake.capabilities] := by
  have goesOn : session.isEnded = false := by rw [isEnded, stage]
  let responded : Session :=
    { session with
      answered := session.answered + 1
      exchange := { session.exchange with backend := changed } }
  rw [answer_commands services stage, answerCommand, responds]
  exact @writeThen_fits responded _ goesOn fits _

structure Served
    (services : Services)
    (session : Session)
    (frames : List Frame)
    (replies : List Outbound)
    (count : Nat) :
    Prop where
  sends : (play services session frames).written.toList =
    session.written.toList ++ replies.map (·.frame session.exchange.handshake.capabilities)
  answers : (play services session frames).answered = session.answered + count
  hears : heard services session frames = count
  closes : (play services session frames).close.result? = some (.ok ())

theorem served_nil
    (services : Services)
    {session : Session}
    (stage : session.stage = .commands) :
    Served services session [] [] 0 where
  sends := (List.append_nil _).symm
  answers := rfl
  hears := rfl
  closes := by
    rw [play, List.foldl_nil, close, stage]
    rfl

theorem served_farewell
    (services : Services)
    {session : Session}
    {frame : Frame}
    (rest : List Frame)
    (stage : session.stage = .commands)
    (leaves : frame.isFarewell = true) :
    Served services session (frame :: rest) [] 1 := by
  have goesOn : session.isEnded = false := by rw [isEnded, stage]
  have ends := answer_farewell services stage leaves
  have plays : play services session (frame :: rest) = session.answer services frame := by
    rw [play, List.foldl_cons, ends]
    exact play_ended services rfl rest
  refine ⟨?_, ?_, ?_, ?_⟩
  · rw [plays, ends]
    exact (List.append_nil _).symm
  · rw [plays, ends]
  · rw [heard, goesOn, if_neg Bool.false_ne_true, ends, heard_ended services rfl]
  · rw [plays, ends]
    rfl

theorem served_other
    {services : Services}
    {session : Session}
    {frame : Frame}
    {rest : List Frame}
    {packet : ServerPacket}
    {changed : Backend}
    {replies : List Outbound}
    {count : Nat}
    (stage : session.stage = .commands)
    (responds : Command.respond services session.settings.host frame.sequence frame.payload
      session.exchange.backend = ⟨.goOn, some ⟨frame.sequence + 1, packet⟩, changed⟩)
    (fits : Fits session.exchange.handshake.capabilities [⟨frame.sequence + 1, packet⟩])
    (served : Served services (session.answer services frame) rest replies count) :
    Served services session (frame :: rest) (⟨frame.sequence + 1, packet⟩ :: replies)
      (count + 1) := by
  have goesOn : session.isEnded = false := by rw [isEnded, stage]
  have answers := answer_other stage responds fits
  have plays : play services session (frame :: rest) =
      play services (session.answer services frame) rest := rfl
  refine ⟨?_, ?_, ?_, ?_⟩
  · rw [plays, served.sends, answers]
    simp [wrote]
  · rw [plays, served.answers, answers]
    simp only [wrote]
    omega
  · rw [heard, goesOn, if_neg Bool.false_ne_true, served.hears]
  · rw [plays, served.closes]

/-- A session that serves commands answers those before the first farewell. -/
theorem play_commands
    (services : Services)
    (frames : List Frame)
    {session : Session}
    (stage : session.stage = .commands)
    (fits : Fits session.exchange.handshake.capabilities
      (Command.replies services session.settings.host session.exchange.backend
        (Frame.untilFarewell frames))) :
    Served services session frames
      (Command.replies services session.settings.host session.exchange.backend
        (Frame.untilFarewell frames))
      (min ((Frame.untilFarewell frames).length + 1) frames.length) := by
  induction frames generalizing session with
  | nil => exact served_nil services stage
  | cons frame rest ih =>
      cases leaves : frame.isFarewell with
      | true =>
          have none : Frame.untilFarewell (frame :: rest) = [] := by
            simp only [Frame.untilFarewell, List.takeWhile, leaves, Bool.not_true]
          have one : min (0 + 1) (rest.length + 1) = 1 := by omega
          rw [none, List.length_nil, List.length_cons, one]
          exact served_farewell services rest stage leaves
      | false =>
          have more : Frame.untilFarewell (frame :: rest) = frame :: Frame.untilFarewell rest := by
            simp only [Frame.untilFarewell, List.takeWhile, leaves, Bool.not_false]
          obtain ⟨packet, changed, responds⟩ := Command.respond_other services
            session.settings.host session.exchange.backend leaves
          rw [more, Command.replies, responds] at fits ⊢
          have head : Fits session.exchange.handshake.capabilities
              [⟨frame.sequence + 1, packet⟩] := fun sent member =>
            fits sent (List.mem_append_left _ member)
          have tail : Fits session.exchange.handshake.capabilities
              (Command.replies services session.settings.host changed
                (Frame.untilFarewell rest)) := fun sent member =>
            fits sent (List.mem_append_right _ member)
          have answers := answer_other stage responds head
          have served := @ih (session.answer services frame) (by rw [answers]; exact stage)
            (by rw [answers]; exact tail)
          have counts : min ((Frame.untilFarewell rest).length + 1 + 1) (rest.length + 1) =
              min ((Frame.untilFarewell rest).length + 1) rest.length + 1 := by omega
          rw [List.length_cons, List.length_cons, counts]
          apply served_other stage responds head
          rw [answers] at served ⊢
          exact served

end Session

end SqlGate
