import SqlGate.Fault
import SqlGate.Proofs.Handshake.Turn

/-!
# The course of a handshake

The packets that the server has sent tell where a handshake stands. A call that
is due there sends one packet more; any other is refused and leaves no trace.
-/

namespace SqlGate

set_option autoImplicit false

inductive PacketKind where
  | greeting
  | switchRequest
  | ok
  | err
deriving DecidableEq, Repr

def ServerPacket.kind : ServerPacket → PacketKind
  | greeting _ => .greeting
  | switchRequest _ => .switchRequest
  | ok _ => .ok
  | err _ => .err

def Exchange.kinds (exchange : Exchange) : List PacketKind :=
  exchange.sent.map (·.packet.kind)

namespace Handshake

variable {Source : Type}

def courses : List (List PacketKind) :=
  [[.greeting, .err], [.greeting, .ok], [.greeting, .switchRequest, .ok],
    [.greeting, .switchRequest, .err]]

/-- The phase that the packets sent so far stand for, if they are the beginning
of a handshake. -/
def phaseOf? : List PacketKind → Option Phase
  | [] => some .initial
  | [.greeting] => some .fastPath
  | [.greeting, .switchRequest] => some .methodMismatch
  | [.greeting, .ok] => some .authenticated
  | [.greeting, .switchRequest, .ok] => some .authenticated
  | [.greeting, .err] => some .rejected
  | [.greeting, .switchRequest, .err] => some .rejected
  | _ => none

theorem prefix_of_phaseOf?
    {kinds : List PacketKind}
    {phase : Phase}
    (stands : phaseOf? kinds = some phase) :
    ∃ course ∈ courses, kinds <+: course := by
  unfold phaseOf? at stands
  split at stands
  · exact ⟨[.greeting, .ok], by decide, List.nil_prefix⟩
  · exact ⟨[.greeting, .ok], by decide, by decide⟩
  · exact ⟨[.greeting, .switchRequest, .ok], by decide, by decide⟩
  · exact ⟨[.greeting, .ok], by decide, by decide⟩
  · exact ⟨[.greeting, .switchRequest, .ok], by decide, by decide⟩
  · exact ⟨[.greeting, .err], by decide, by decide⟩
  · exact ⟨[.greeting, .switchRequest, .err], by decide, by decide⟩
  · cases stands

/-- Until the end only greetings and switch requests are sent. -/
theorem kind_of_phaseOf?
    {kinds : List PacketKind}
    {phase : Phase}
    (stands : phaseOf? kinds = some phase)
    (waits : phase.isTerminal = false) :
    ∀ kind ∈ kinds, kind = .greeting ∨ kind = .switchRequest := by
  unfold phaseOf? at stands
  split at stands <;> cases stands <;> first | decide | cases waits

def Phase.after? : Phase → PacketKind → Option Phase
  | initial, .greeting => some fastPath
  | fastPath, .switchRequest => some methodMismatch
  | fastPath, .ok => some authenticated
  | fastPath, .err => some rejected
  | methodMismatch, .ok => some authenticated
  | methodMismatch, .err => some rejected
  | _, _ => none

theorem phaseOf?_append
    {kinds : List PacketKind}
    {phase : Phase}
    (stands : phaseOf? kinds = some phase)
    (kind : PacketKind) :
    phaseOf? (kinds ++ [kind]) = phase.after? kind := by
  unfold phaseOf? at stands
  -- Seven beginnings of a course and four kinds that may follow each.
  split at stands <;> cases stands <;> cases kind <;> rfl

def Call.isDue : Call Source → List PacketKind → Bool
  | .greet _, [] => true
  | .receive _ _ _, [.greeting] => true
  | .receive _ _ _, [.greeting, .switchRequest] => true
  | _, _ => false

theorem isDue_greet
    {kinds : List PacketKind}
    {phase : Phase}
    (stands : phaseOf? kinds = some phase)
    (scramble : Scramble) :
    (Call.greet scramble : Call Source).isDue kinds = decide (phase = .initial) := by
  unfold phaseOf? at stands
  split at stands <;> cases stands <;> rfl

theorem isDue_receive
    {kinds : List PacketKind}
    {phase : Phase}
    (stands : phaseOf? kinds = some phase)
    (packet : Inbound Source) :
    packet.call.isDue kinds = (decide (phase = .fastPath) || decide (phase = .methodMismatch)) := by
  unfold phaseOf? at stands
  split at stands <;> cases stands <;> rfl

def Call.replySequence : Call Source → UInt8
  | .greet _ => 0
  | .receive _ sequence _ => sequence + 1

def Outcome.packetKind : Outcome → PacketKind
  | switchRequested => .switchRequest
  | authenticated => .ok
  | rejected _ => .err

def Answer.packetKind? : Answer → Option PacketKind
  | numbered _ => some .greeting
  | concluded outcome => some outcome.packetKind
  | refused _ => none

structure Accounted
    (before : Exchange)
    (call : Call Source)
    (answer : Answer)
    (after : Exchange) :
    Prop where
  /-- A call is refused just when it is not due. -/
  accepts : answer.packetKind?.isSome = call.isDue before.kinds
  /-- A call that is accepted sends one packet, of the kind that its answer says. -/
  sendsOne : ∀ kind, answer.packetKind? = some kind →
    ∃ packet : ServerPacket, packet.kind = kind ∧
      after.sent = before.sent ++ [⟨call.replySequence, packet⟩]
  /-- A call that is refused is a violation of the client's turn, never of the
  table of phases, and changes nothing. -/
  refusesWhole : ∀ violation, answer = .refused violation →
    after = before ∧
      (Fault.ofViolation violation).isViolation = true ∧
      ∀ current next, violation ≠ .illegalTransition current next

theorem kinds_greeted (exchange : Exchange) (scramble : Scramble) :
    (exchange.greeted scramble).kinds = exchange.kinds ++ [.greeting] := by
  simp only [Exchange.kinds, Exchange.greeted, List.map_append, List.map_cons, List.map_nil]
  rfl

theorem kinds_replied
    (exchange : Exchange)
    (packet : ServerPacket)
    (phase : Phase) :
    (exchange.replied packet phase).kinds = exchange.kinds ++ [packet.kind] := by
  simp only [Exchange.kinds, Exchange.replied, List.map_append, List.map_cons, List.map_nil,
    ReplyStream.emit]

theorem phaseOf?_replied
    (exchange : Exchange)
    (packet : ServerPacket)
    {phase next : Phase}
    (stands : phaseOf? exchange.kinds = some phase)
    (leads : phase.after? packet.kind = some next) :
    phaseOf? (exchange.replied packet next).kinds = some next := by
  rw [kinds_replied, phaseOf?_append stands, leads]

theorem kind_ruling
    (services : Services)
    (host : String)
    (challenge : Challenge)
    (attempt : LoginAttempt) :
    (ruling services host challenge attempt).packet.kind =
      (ruling services host challenge attempt).outcome.packetKind := by
  have ruled := ruled_ruling services host challenge attempt
  generalize ruling services host challenge attempt = verdict at ruled ⊢
  cases ruled <;> rfl

theorem after?_ruling
    (services : Services)
    (host : String)
    (challenge : Challenge)
    (attempt : LoginAttempt)
    {phase : Phase}
    (waits : phase = .fastPath ∨ phase = .methodMismatch) :
    phase.after? (ruling services host challenge attempt).packet.kind =
      some (ruling services host challenge attempt).outcome.phase := by
  have ruled := ruled_ruling services host challenge attempt
  generalize ruling services host challenge attempt = verdict at ruled ⊢
  rcases waits with fast | switched
  · subst fast
    cases ruled <;> rfl
  · subst switched
    cases ruled <;> rfl

theorem phaseOf?_turn
    {services : Source → Services}
    {before after : Exchange}
    {call : Call Source}
    {answer : Answer}
    (stands : phaseOf? before.kinds = some before.handshake.phase)
    (turn : Turn services before call answer after) :
    phaseOf? after.kinds = some after.handshake.phase := by
  cases turn with
  | greeted scramble phase unput =>
      rw [kinds_greeted, phaseOf?_append stands, phase]
      rfl
  | greetedAlready scramble put phase => exact stands
  | malformed packet challenge problem phase put broken =>
      rw [phase] at stands
      exact phaseOf?_replied (before.answering packet.sequence) _ stands rfl
  | judged packet challenge login phase put decoded plugin verdict made =>
      have leads := after?_ruling (services packet.source) before.handshake.host challenge
        (.ofPacket login) (.inl phase)
      rw [← made] at leads
      exact phaseOf?_replied ((before.answering packet.sequence).recorded login) _ stands leads
  | switched packet challenge login phase put decoded plugin =>
      rw [phase] at stands
      exact phaseOf?_replied ((before.answering packet.sequence).recorded login) _ stands rfl
  | judgedAnew packet challenge attempt phase put recorded verdict made =>
      have leads := after?_ruling (services packet.source) before.handshake.host challenge
        { attempt with authResponse := packet.payload } (.inr phase)
      rw [← made] at leads
      exact phaseOf?_replied ((before.answering packet.sequence).responded attempt packet.payload)
        _ stands leads
  | untimely packet notFast notSwitched => exact stands

theorem accounted_refusal
    {before : Exchange}
    {call : Call Source}
    {violation : Violation}
    (early : call.isDue before.kinds = false)
    (outOfTurn : ∀ current next, violation ≠ .illegalTransition current next) :
    Accounted before call (.refused violation) before where
  accepts := early.symm
  sendsOne := by
    intro kind same
    cases same
  refusesWhole := by
    intro given same
    cases same
    exact ⟨rfl, rfl, outOfTurn⟩

theorem accounted_reply
    {before after : Exchange}
    {packet : Inbound Source}
    {outcome : Outcome}
    (stands : phaseOf? before.kinds = some before.handshake.phase)
    (waits : before.handshake.phase = .fastPath ∨ before.handshake.phase = .methodMismatch)
    (reply : ServerPacket)
    (matching : reply.kind = outcome.packetKind)
    (sends : after.sent = before.sent ++ [⟨packet.sequence + 1, reply⟩]) :
    Accounted before packet.call (.concluded outcome) after where
  accepts := by
    rw [isDue_receive stands, ← Bool.decide_or, decide_eq_true waits]
    rfl
  sendsOne := by
    intro kind same
    cases same
    exact ⟨reply, matching, sends⟩
  refusesWhole := by
    intro violation refused
    cases refused

theorem accounted_turn
    {services : Source → Services}
    {before after : Exchange}
    {call : Call Source}
    {answer : Answer}
    (stands : phaseOf? before.kinds = some before.handshake.phase)
    (turn : Turn services before call answer after) :
    Accounted before call answer after := by
  cases turn with
  | greeted scramble phase unput =>
      refine ⟨?_, ?_, ?_⟩
      · rw [isDue_greet stands, decide_eq_true phase]
        rfl
      · intro kind same
        cases same
        exact ⟨_, rfl, rfl⟩
      · intro violation refused
        cases refused
  | greetedAlready scramble put phase =>
      apply accounted_refusal
      · rw [isDue_greet stands, decide_eq_false phase]
      · intro current next same
        cases same
  | malformed packet challenge problem phase put broken =>
      exact accounted_reply stands (.inl phase) _ rfl rfl
  | judged packet challenge login phase put decoded plugin verdict made =>
      apply accounted_reply stands (.inl phase) verdict.packet _ rfl
      rw [made]
      exact kind_ruling _ _ _ _
  | switched packet challenge login phase put decoded plugin =>
      exact accounted_reply stands (.inl phase) _ rfl rfl
  | judgedAnew packet challenge attempt phase put recorded verdict made =>
      apply accounted_reply stands (.inr phase) verdict.packet _ rfl
      rw [made]
      exact kind_ruling _ _ _ _
  | untimely packet notFast notSwitched =>
      apply accounted_refusal
      · rw [isDue_receive stands, decide_eq_false notFast, decide_eq_false notSwitched]
        rfl
      · intro current next same
        cases same

theorem phaseOf?_run
    (services : Source → Services)
    (ids : ConnectionIds)
    (serverVersion host : String)
    (backend : Backend)
    (calls : List (Call Source)) :
    let final := run services (.fresh ids serverVersion host backend) calls
    Standing final.handshake ∧ phaseOf? final.kinds = some final.handshake.phase := by
  apply run_induction (fun _ exchange => phaseOf? exchange.kinds = some exchange.handshake.phase)
    (standing_fresh ids serverVersion host backend) rfl
  intro earlier call before answer after standing stands turn
  exact phaseOf?_turn stands turn

/-- In any sequence of calls on a new connection, each call either sends the one
packet that is due or is refused and leaves everything as it was. The packets so
far begin one of the four courses, and they tell the phase. -/
theorem each_call_sends_one_packet_or_changes_nothing
    (services : Source → Services)
    (ids : ConnectionIds)
    (serverVersion host : String)
    (backend : Backend)
    (calls : List (Call Source)) :
    let start := Exchange.fresh ids serverVersion host backend
    let final := run services start calls
    (∀ before call, Meets services start calls before call →
      Accounted before call (perform services before call).1 (perform services before call).2) ∧
    (∃ course ∈ courses, final.kinds <+: course) ∧
    phaseOf? final.kinds = some final.handshake.phase ∧
    final.handshake.phase ≠ .switchResponseReceived := by
  intro start final
  have stands := phaseOf?_run services ids serverVersion host backend
  refine ⟨?_, prefix_of_phaseOf? (stands calls).2, (stands calls).2, ?_⟩
  · intro before call meets
    obtain ⟨earlier, later, split, rfl⟩ := meets
    exact accounted_turn (stands earlier).2 (turn_perform services (stands earlier).1 call)
  · intro between
    have standing : Standing final.handshake := (stands calls).1
    unfold Standing at standing
    rw [between] at standing
    exact standing

end Handshake

end SqlGate
