import SqlGate.Proofs.Session.Stopping

/-!
# The time limit of a login

A login is decided by its first packet, or by the second one if the server asks its client to
switch. If that packet is there in time, or the client has closed its side, the time limit
has no effect on the session, neither on the login nor on anything behind it. If it is not
there when the time is over, the session ends with nothing decided and nobody asked.
-/

namespace SqlGate.Session

open Handshake

set_option autoImplicit false

def switches (plugin : String) (payload : Bytes) : Bool :=
  match LoginPacket.decode payload with
  | .ok login => !negotiated login plugin
  | .error _ => false

/-- The first packet decides a login unless its client is asked to switch, and then the second
one does. -/
def decides (plugin : String) : List Frame → Bool
  | [] => false
  | [login] => !switches plugin login.payload
  | _ :: _ :: _ => true

/-- The packet that decides the login has arrived whole, or the client has closed its side. -/
def Settled (plugin : String) (schedule : List Occurrence) : Prop :=
  decides plugin (Frame.frames (arrived schedule)) = true ∨ Closes schedule

def Occurrence.Checks (plugin : String) : Occurrence → Prop
  | .arrives _ => True
  | .turn services => services.policy.plugin = plugin

def greetingFrame (settings : Settings) (ids : ConnectionIds) (scramble : Scramble) : Frame :=
  ⟨0, (Greeting.ofScramble settings.serverVersion ids.draw.1 scramble).encode⟩

def switchRequest (plugin : String) (scramble : Scramble) (login : Frame) : Frame :=
  ⟨login.sequence + 1, SwitchRequest.encode { plugin, data := scramble.toList }⟩

def under (session : Session) (settings : Settings) : Session := { session with settings }

section Decides

variable {plugin : String}

theorem decides_append
    {frames : List Frame}
    (decided : decides plugin frames = true)
    (later : List Frame) :
    decides plugin (frames ++ later) = true := by
  match frames, later with
  | [login], [] => exact decided
  | [login], _ :: _ => rfl
  | _ :: _ :: _, _ => rfl

theorem length_le_of_undecided
    {frames : List Frame}
    (undecided : decides plugin frames = false) :
    frames.length ≤ 1 := by
  match frames with
  | [] => exact Nat.zero_le 1
  | [login] => exact Nat.le_refl 1
  | _ :: _ :: _ => cases undecided

theorem frames_arrived_append (earlier later : List Occurrence) :
    Frame.frames (arrived earlier) <+: Frame.frames (arrived (earlier ++ later)) := by
  rw [arrived_append, Frame.frames_append]
  exact List.prefix_append _ _

theorem Settled.append
    {earlier : List Occurrence}
    (settled : Settled plugin earlier)
    (later : List Occurrence) :
    Settled plugin (earlier ++ later) := by
  rcases settled with decided | closes
  · obtain ⟨more, whole⟩ := frames_arrived_append earlier later
    rw [Settled, ← whole]
    exact .inl (decides_append decided more)
  · exact .inr (List.mem_append_left later closes)

theorem closes_append (past : List Occurrence) (occurrence : Occurrence) :
    Closes (past ++ [occurrence]) ↔ Closes past ∨ occurrence = .arrives .inputEnd := by
  simp [Closes, eq_comm]

end Decides

/-! ## One move of a login -/

section Moves

variable {session : Session}

theorem nextMove_login (stage : session.stage = .login) :
    session.nextMove =
      match Frame.read? session.unread with
      | some (frame, rest) => .answerLogin frame rest
      | none =>
          if session.inputEnded then .finish (.error .streamEnded)
          else if session.isOverdue then
            .finish (.error (timeoutOf session.settings.handshakeMillis))
          else .wait := by
  rw [nextMove, stage]
  rfl

end Moves

inductive Verdict (plugin : String) (before : Exchange) (frame : Frame) :
    Outcome → Outbound → Exchange → Prop where
  | decided
      {outcome : Outcome}
      {reply : Outbound}
      {after : Exchange}
      (ends : outcome.isTerminal = true)
      (decides : before.handshake.phase = .fastPath → switches plugin frame.payload = false) :
      Verdict plugin before frame outcome reply after
  | switched
      (challenge : Challenge)
      {after : Exchange}
      (put : before.handshake.challenge = some challenge)
      (phase : before.handshake.phase = .fastPath)
      (asks : switches plugin frame.payload = true)
      (scramble : after.handshake.challenge.map (·.scramble) = some challenge.scramble)
      (asked : after.asked = before.asked) :
      Verdict plugin before frame .switchRequested
        ⟨frame.sequence + 1, .switchRequest { plugin, data := challenge.scramble.toList }⟩ after

theorem switches_of_decoded
    {plugin : String}
    {payload : Bytes}
    {login : LoginPacket}
    (decoded : LoginPacket.decode payload = .ok login) :
    switches plugin payload = !negotiated login plugin := by
  rw [switches, decoded]

theorem verdict_of_accepts
    {services : Services}
    {before after : Exchange}
    {frame : Frame}
    {outcome : Outcome}
    {reply : Outbound}
    (accepts : Accepts services before frame outcome reply after) :
    Verdict services.policy.plugin before frame outcome reply after := by
  have turn := accepts.turn
  have sends := accepts.sends
  generalize arrives : Call.receive services frame.sequence frame.payload = call at turn
  generalize concludes : Answer.concluded outcome = answer at turn
  have packet_eq (packet : Inbound Services) (same : Call.receive services frame.sequence
      frame.payload = packet.call) : packet = ⟨services, frame.sequence, frame.payload⟩ :=
    (@Inbound.eq_of_call_eq _ ⟨services, frame.sequence, frame.payload⟩ packet same).symm
  cases turn with
  | greeted scramble phase unput => cases arrives
  | greetedAlready scramble put phase => cases arrives
  | malformed packet challenge problem phase put broken =>
      obtain rfl := packet_eq packet arrives
      cases concludes
      exact .decided rfl fun _ => by rw [switches, broken]
  | judged packet challenge login phase put decoded plugin verdict made =>
      obtain rfl := packet_eq packet arrives
      cases concludes
      refine .decided (by rw [made]; exact ruling_isTerminal ..) fun _ => ?_
      exact (switches_of_decoded decoded).trans (congrArg (!·) plugin)
  | switched packet challenge login phase put decoded plugin =>
      obtain rfl := packet_eq packet arrives
      cases concludes
      have same := List.append_cancel_left sends
      obtain rfl := List.singleton_inj.mp same
      refine .switched challenge put phase ?_ ?_ rfl
      · exact (switches_of_decoded decoded).trans (congrArg (!·) plugin)
      · simp [Exchange.switched, Exchange.replied, Exchange.recorded, Exchange.answering,
          record, put]
  | judgedAnew packet challenge attempt phase put recorded verdict made =>
      cases concludes
      refine .decided (by rw [made]; exact ruling_isTerminal ..) fun fast => ?_
      rw [phase] at fast
      cases fast
  | untimely packet notFast notSwitched => cases concludes

/-! ## The course of a login -/

section Course

variable (plugin : String)
variable (settings : Settings)
variable (ids : ConnectionIds)
variable (scramble : Scramble)

/-- The packets of the server before the login is decided fit their frames, so that they can be
written. -/
structure Writable : Prop where
  greeting : (greetingFrame settings ids scramble).payload.length ≤ Frame.maxPayload
  request : (SwitchRequest.encode { plugin, data := scramble.toList }).length ≤ Frame.maxPayload

structure Pending (heard : List Frame) (session : Session) : Prop where
  configured : session.settings = settings
  put : session.exchange.handshake.challenge.map (·.scramble) = some scramble
  phase : session.exchange.handshake.phase = if heard.isEmpty then .fastPath else .methodMismatch
  asked : session.exchange.asked = []
  sent : session.written.toList =
    greetingFrame settings ids scramble :: heard.map (switchRequest plugin scramble)
  fits : ∀ frame ∈ heard, frame.payload.length ≤ Frame.maxPayload
  undecided : decides plugin heard = false

/-- Everything that has arrived was heard or is unread, and the clock shows the time. -/
structure Waits (past : List Occurrence) (heard : List Frame) (session : Session) : Prop where
  pending : Pending plugin settings ids scramble heard session
  stage : session.stage = .login
  clock : session.clock = elapsed past
  closes : session.inputEnded = true ↔ Closes past
  reads : session.inputEnded = false →
    heard.flatMap Frame.bytes ++ session.unread = arrived past

structure Late (past : List Occurrence) (heard : List Frame) (session : Session) : Prop where
  pending : Pending plugin settings ids scramble heard session
  stage : session.stage = .ended (.error (timeoutOf settings.handshakeMillis))
  hears : heard <+: Frame.frames (arrived past)

inductive Course (past : List Occurrence) (session : Session) : Prop where
  | waits (heard : List Frame) (waits : Waits plugin settings ids scramble past heard session)
  | late (heard : List Frame) (late : Late plugin settings ids scramble past heard session)
  | decided (left : session.stage ≠ .login) (settled : Settled plugin past)
  | overflowed (unfit : ¬ Writable plugin settings ids scramble) (overflowed : Overflowed session)

end Course

section Pending

variable {plugin : String}
variable {settings : Settings}
variable {ids : ConnectionIds}
variable {scramble : Scramble}
variable {session : Session}
variable {heard : List Frame}

theorem Pending.carrying
    (pending : Pending plugin settings ids scramble heard session)
    (transport : Transport) :
    Pending plugin settings ids scramble heard (session.carrying transport) :=
  ⟨pending.configured, pending.put, pending.phase, pending.asked, pending.sent, pending.fits,
    pending.undecided⟩

theorem Pending.finish
    (pending : Pending plugin settings ids scramble heard session)
    (result : Except Fault Unit) :
    Pending plugin settings ids scramble heard (session.finish result) :=
  ⟨pending.configured, pending.put, pending.phase, pending.asked, pending.sent, pending.fits,
    pending.undecided⟩

theorem Pending.heard_of_fastPath
    (pending : Pending plugin settings ids scramble heard session)
    (fast : session.exchange.handshake.phase = .fastPath) :
    heard = [] := by
  have phase := pending.phase
  rw [fast] at phase
  cases heard with
  | nil => rfl
  | cons login rest => cases phase

/-- A packet that decides the login does so together with those before it. -/
theorem Pending.decided
    {frame : Frame}
    (pending : Pending plugin settings ids scramble heard session)
    (asks : session.exchange.handshake.phase = .fastPath →
      switches plugin frame.payload = false) :
    decides plugin (heard ++ [frame]) = true := by
  cases heard with
  | nil =>
      rw [List.nil_append, decides, asks pending.phase]
      rfl
  | cons login rest =>
      cases rest with
      | nil => rfl
      | cons second others => rfl

theorem Pending.answer
    {services : Services}
    {frame : Frame}
    (pending : Pending services.policy.plugin settings ids scramble heard session)
    (stage : session.stage = .login)
    (awaits : AwaitsPacket session.exchange.handshake)
    (short : frame.payload.length ≤ Frame.maxPayload) :
    let plugin := services.policy.plugin
    let after := session.answer services frame
    (after.stage ≠ .login ∧ decides plugin (heard ++ [frame]) = true) ∨
      (after.stage = .login ∧ Pending plugin settings ids scramble (heard ++ [frame]) after) ∨
      ¬ Writable plugin settings ids scramble ∧ Overflowed after := by
  intro plugin after
  obtain ⟨outcome, reply, changed, accepts⟩ := accepts_of_awaits
    (show AwaitsPacket { session.exchange with sent := [] }.handshake from awaits) services frame
  have answers : after = session.answerLogin services frame := by
    rw [show after = _ from answer.eq_1 services session frame, stage]
  rw [answers, answerLogin_accepted stage accepts]
  cases verdict_of_accepts accepts with
  | decided ends asks =>
      refine .inl ⟨?_, pending.decided asks⟩
      split
      · cases outcome with
        | switchRequested => cases ends
        | authenticated => exact Stage.noConfusion
        | rejected code => exact Stage.noConfusion
      · exact Stage.noConfusion
  | switched challenge put fast asks scrambled asked =>
      have first := pending.heard_of_fastPath fast
      subst first
      have same : challenge.scramble = scramble := by
        have known := pending.put
        rw [show session.exchange.handshake.challenge = some challenge from put] at known
        exact Option.some.inj known
      subst same
      split
      · refine .inr (.inl ⟨stage, pending.configured, scrambled, accepts.phase, ?_, ?_, ?_, ?_⟩)
        · exact asked.trans pending.asked
        · simp [conclude, wrote, pending.sent, switchRequest, Outbound.frame, ServerPacket.encode,
            plugin]
        · intro other member
          rw [List.mem_singleton.mp member]
          exact short
        · rw [List.nil_append, decides, asks]
          rfl
      · rename_i large
        exact .inr (.inr ⟨fun writable => large writable.request, _, rfl⟩)

end Pending

section Course

variable {plugin : String}
variable {settings : Settings}
variable {ids : ConnectionIds}
variable {scramble : Scramble}
variable {session : Session}
variable {past : List Occurrence}
variable {heard : List Frame}

theorem course_start (plugin : String) :
    Course plugin settings ids scramble [] (start settings ids scramble).1 := by
  have sent : (greeting settings ids scramble).sent =
      [⟨0, .greeting (Greeting.ofScramble settings.serverVersion ids.draw.1 scramble)⟩] := rfl
  rw [start_eq, sent, write_single]
  split
  · refine .waits [] ⟨?_, rfl, rfl, by simp [Closes, wrote], fun _ => rfl⟩
    exact ⟨rfl, rfl, rfl, rfl, rfl, by simp, rfl⟩
  · rename_i large
    exact .overflowed (fun writable => large writable.greeting) ⟨_, rfl⟩

theorem Waits.frames
    (waits : Waits plugin settings ids scramble past heard session)
    (opened : session.inputEnded = false) :
    Frame.frames (arrived past) = heard ++ Frame.frames session.unread := by
  rw [← waits.reads opened, (Frame.frames_append_of_fits waits.pending.fits session.unread).1]

/-- What arrives decides nothing before the server takes its turn. -/
theorem Waits.absorb
    (waits : Waits plugin settings ids scramble past heard session)
    (event : Event) :
    Waits plugin settings ids scramble (past ++ [.arrives event]) heard
      (session.absorb event) where
  pending := by
    rw [absorb_carrying]
    exact waits.pending.carrying _
  stage := by
    rw [absorb_carrying]
    exact waits.stage
  clock := by
    rw [elapsed_append, ← waits.clock]
    cases event with
    | bytes chunk =>
        rw [Session.absorb]
        split <;> simp [Event.millis]
    | _ => simp [Session.absorb, Event.millis]
  closes := by
    rw [closes_append, ← waits.closes]
    cases event with
    | bytes chunk =>
        rw [Session.absorb]
        split <;> simp
    | _ => simp [Session.absorb]
  reads := by
    rw [arrived_append]
    cases event with
    | bytes chunk =>
        rw [Session.absorb]
        split
        · rename_i closed
          intro opened
          rw [closed] at opened
          cases opened
        · intro opened
          simp [← waits.reads opened, Event.chunk]
    | inputEnd => exact fun opened => Bool.noConfusion opened
    | elapse millis => simpa [Session.absorb, Event.chunk] using waits.reads
    | stop => simpa [Session.absorb, Event.chunk] using waits.reads

/-- A turn brings nothing, and takes no time. -/
theorem Waits.turn
    (waits : Waits plugin settings ids scramble past heard session)
    (services : Services) :
    Waits plugin settings ids scramble (past ++ [.turn services]) heard session where
  pending := waits.pending
  stage := waits.stage
  clock := by simp [elapsed_append, waits.clock]
  closes := by simp [closes_append, waits.closes]
  reads := by simpa [arrived_append] using waits.reads

theorem course_turn
    {services : Services}
    (lawful : Lawful session)
    (waits : Waits services.policy.plugin settings ids scramble past heard session) :
    Course services.policy.plugin settings ids scramble past (session.act services) := by
  have turns := turns_act services session
  generalize session.act services = after at turns ⊢
  cases turns with
  | waits moves => exact .waits heard waits
  | finishes result moves =>
      cases finishes_of_nextMove moves with
      | closed stage quiet inputEnded =>
          exact .decided Stage.noConfusion (.inr (waits.closes.mp inputEnded))
      | overdue stage quiet listens late =>
          refine .late heard ⟨waits.pending.finish _, ?_, ?_⟩
          · rw [← waits.pending.configured]
            rfl
          · rw [waits.frames listens]
            exact List.prefix_append _ _
      | served stage why => cases waits.stage.symm.trans stage
  | answers frame rest moves =>
      obtain ⟨short, split⟩ := Frame.fits_of_read? (read?_of_nextMove moves)
      rcases waits.pending.answer waits.stage (lawful.awaits waits.stage) short with
        ⟨left, decided⟩ | ⟨stays, pending⟩ | ⟨unfit, overflows⟩
      · refine .decided left ?_
        cases opened : session.inputEnded with
        | true => exact .inr (waits.closes.mp opened)
        | false =>
            apply Or.inl
            rw [waits.frames opened, Frame.frames_of_some (read?_of_nextMove moves)]
            rw [← List.singleton_append, ← List.append_assoc]
            exact decides_append decided _
      · refine .waits (heard ++ [frame]) ⟨pending.carrying _, stays, waits.clock, waits.closes, ?_⟩
        intro opened
        rw [← waits.reads opened, split]
        simp [Session.carrying]
      · exact .overflowed unfit overflows

theorem course_occur
    {occurrence : Occurrence}
    (lawful : Lawful session)
    (course : Course plugin settings ids scramble past session)
    (checks : occurrence.Checks plugin) :
    Course plugin settings ids scramble (past ++ [occurrence]) (session.occur occurrence) := by
  cases course with
  | waits heard waits =>
      cases occurrence with
      | arrives event =>
          have goesOn : session.isEnded = false := by rw [isEnded, waits.stage]
          rw [occur, if_neg (ne_true_of_eq_false goesOn)]
          exact .waits heard (waits.absorb event)
      | turn services =>
          subst checks
          exact course_turn lawful (waits.turn services)
  | late heard late =>
      have ended : session.isEnded = true := by rw [isEnded, late.stage]
      rw [occur_ended ended]
      have hears := late.hears.trans (frames_arrived_append past [occurrence])
      exact .late heard ⟨late.pending, late.stage, hears⟩
  | decided left settled => exact .decided (occur_serving left occurrence).1 (settled.append _)
  | overflowed unfit overflowed =>
      rw [occur_ended (isEnded_of_overflowed overflowed)]
      exact .overflowed unfit overflowed

theorem course_follow
    (schedule : List Occurrence)
    (checks : ∀ occurrence ∈ schedule, occurrence.Checks plugin) :
    Course plugin settings ids scramble schedule
      ((start settings ids scramble).1.follow schedule) := by
  -- From the end: the last occurrence meets the session of all the others.
  induction schedule using List.reverseRecOn with
  | nil => exact course_start plugin
  | append_singleton past occurrence ih =>
      rw [follow_append]
      have course := ih fun other member => checks other (List.mem_append_left _ member)
      have started : Reached Frame.maxPayload settings ids scramble (start settings ids scramble).1 :=
        .greets
      have lawful := lawful_reached (reached_follow started past)
      exact course_occur lawful course (checks occurrence (by simp))

/-- The turns that a server takes at the end bring nothing and take no time. -/
theorem course_run
    {services : Services}
    (reached : Reached Frame.maxPayload settings ids scramble session)
    (course : Course services.policy.plugin settings ids scramble past session) :
    Course services.policy.plugin settings ids scramble past (run services session) := by
  rw [← follow_turns services (Nat.lt_succ_self session.unread.length)]
  generalize session.unread.length.succ = count
  induction count generalizing session with
  | zero => exact course
  | succ count ih =>
      rw [List.replicate_succ, follow_cons]
      apply ih (reached_occur reached _)
      cases course with
      | waits heard waits => exact course_turn (lawful_reached reached) waits
      | late heard late =>
          have ended : session.isEnded = true := by rw [isEnded, late.stage]
          rw [occur_ended ended]
          exact .late heard late
      | decided left settled => exact .decided (occur_serving left _).1 settled
      | overflowed unfit overflowed =>
          rw [occur_ended (isEnded_of_overflowed overflowed)]
          exact .overflowed unfit overflowed

/-- A server that has nothing left to do, although the time is over, has ended the login. -/
theorem late_of_course
    (course : Course plugin settings ids scramble past session)
    (writable : Writable plugin settings ids scramble)
    (limited : 0 < settings.handshakeMillis)
    (passed : settings.handshakeMillis ≤ elapsed past)
    (unsettled : ¬ Settled plugin past)
    (idle : session.nextMove = .wait) :
    ∃ heard, Late plugin settings ids scramble past heard session := by
  cases course with
  | waits heard waits =>
      have goesOn : session.isEnded = false := by rw [isEnded, waits.stage]
      have inTime := (idle_of_wait goesOn idle).inTime waits.stage
      rw [isOverdue, waits.pending.configured, waits.clock] at inTime
      simp [Nat.ne_of_gt limited, passed] at inTime
  | late heard late => exact ⟨heard, late⟩
  | decided left settled => exact absurd settled unsettled
  | overflowed unfit => exact absurd writable unfit

end Course

/-! ## Beside the session without a limit -/

section Limited

variable {settings : Settings}
variable {ids : ConnectionIds}
variable {scramble : Scramble}
variable {session : Session}

/-- The limit alone can make a session move otherwise, and only when it has nothing to read. -/
theorem nextMove_under
    (same : session.settings = { settings with handshakeMillis := 0 }) :
    (session.under settings).nextMove = session.nextMove ∨
      session.stage = .login ∧ Frame.read? session.unread = none ∧ session.inputEnded = false ∧
        (session.under settings).isOverdue = true := by
  have staged : (session.under settings).stage = session.stage := rfl
  cases stage : session.stage with
  | ended result =>
      apply Or.inl
      rw [nextMove, nextMove, staged, stage]
  | commands =>
      have stopsFirst : (session.under settings).settings.stopsFirst =
          session.settings.stopsFirst := by
        rw [same]
        rfl
      apply Or.inl
      rw [nextMove, nextMove, staged, stage, stopsFirst]
      rfl
  | login =>
      have unread : (session.under settings).unread = session.unread := rfl
      have inputEnded : (session.under settings).inputEnded = session.inputEnded := rfl
      have inTime : session.isOverdue = false := by
        rw [isOverdue, same]
        rfl
      rw [nextMove_login stage, nextMove_login (staged.trans stage), unread, inputEnded, inTime]
      cases Frame.read? session.unread with
      | some read => exact .inl rfl
      | none =>
          cases session.inputEnded with
          | true => exact .inl rfl
          | false =>
              cases (session.under settings).isOverdue with
              | true => exact .inr ⟨rfl, rfl, rfl, rfl⟩
              | false => exact .inl rfl

theorem act_under
    (services : Services)
    (host : settings.host = session.settings.host)
    (moves : (session.under settings).nextMove = session.nextMove) :
    (session.under settings).act services = (session.act services).under settings := by
  have turns := turns_act services session
  generalize session.act services = after at turns ⊢
  cases turns with
  | waits waits => exact act_of_wait services (moves.trans waits)
  | finishes result finishes => exact act_of_finish services (moves.trans finishes)
  | answers frame rest answers =>
      rw [← moves] at answers
      rw [act_of_answers services answers]
      have placed := answer_placed services session settings session.transport host frame
      exact congrArg (Session.carrying · { session.transport with unread := rest }) placed

theorem absorb_under (session : Session) (settings : Settings) (event : Event) :
    (session.under settings).absorb event = (session.absorb event).under settings := by
  cases event with
  | bytes chunk =>
      have inputEnded : (session.under settings).inputEnded = session.inputEnded := rfl
      rw [absorb, absorb, inputEnded]
      split <;> rfl
  | inputEnd => rfl
  | elapse millis => rfl
  | stop => rfl

theorem under_eq_placed (session : Session) (settings : Settings) :
    session.under settings = session.placed settings session.transport := rfl

theorem start_under (settings : Settings) (ids : ConnectionIds) (scramble : Scramble) :
    (start settings ids scramble).1 =
      (start { settings with handshakeMillis := 0 } ids scramble).1.under settings := by
  let unlimited : Settings := { settings with handshakeMillis := 0 }
  let greets : Exchange := greeting settings ids scramble
  have same : greeting unlimited ids scramble = greets := rfl
  have fresh := (start_fresh unlimited ids scramble).1
  rw [under_eq_placed, fresh, start_eq, start_eq, same]
  exact write_placed { settings := unlimited, exchange := greets } settings {} greets.sent

theorem settings_reached
    {limit : Nat}
    (reached : Reached limit settings ids scramble session) :
    session.settings = settings := by
  have kept : Kept fun session => session.settings = settings :=
    ⟨fun _ _ _ same => same, fun _ _ _ same => same, fun _ same => same, fun _ _ _ same => same⟩
  exact kept.reached (fun _ => rfl) (fun _ _ same => same) (fun _ _ _ same => same) reached

theorem not_timedOut_reached
    {limit : Nat}
    (unlimited : settings.handshakeMillis = 0)
    (reached : Reached limit settings ids scramble session) :
    ¬ TimedOut session := by
  suffices holds : session.settings = settings ∧ ¬ TimedOut session from holds.2
  have kept : Kept fun session => session.settings = settings ∧ ¬ TimedOut session := by
    refine ⟨fun _ _ _ holds => holds, fun _ _ _ holds => holds, ?_, ?_⟩
    · rintro session ⟨same, _⟩
      exact ⟨same, fun ⟨_, result⟩ => by cases result⟩
    · rintro session result other ⟨same, _⟩
      exact ⟨same, fun ⟨cause, timeout⟩ => other cause (Option.some.inj timeout)⟩
  apply kept.reached _ (fun _ _ holds => holds) _ reached
  · intro exchange
    exact ⟨rfl, fun ⟨_, result⟩ => by cases result⟩
  · rintro session result moves ⟨same, _⟩
    refine ⟨same, ?_⟩
    rintro ⟨cause, timeout⟩
    obtain rfl := Option.some.inj timeout
    generalize fails : Except.error (Fault.timeout cause) = result at moves
    cases finishes_of_nextMove moves with
    | closed stage quiet inputEnded => cases fails
    | overdue stage quiet listens late =>
        rw [isOverdue, same, unlimited] at late
        cases late
    | served stage why => cases fails

end Limited

section Deadline

variable {plugin : String}
variable {settings : Settings}
variable {ids : ConnectionIds}
variable {scramble : Scramble}

theorem not_settled_of_quiet
    {past : List Occurrence}
    {session : Session}
    (course : Course plugin settings ids scramble past session)
    (stage : session.stage = .login)
    (quiet : Frame.read? session.unread = none)
    (opened : session.inputEnded = false) :
    session.clock = elapsed past ∧ ¬ Settled plugin past := by
  cases course with
  | waits heard waits =>
      refine ⟨waits.clock, ?_⟩
      rintro (decided | closes)
      · rw [waits.frames opened, Frame.frames_of_none quiet, List.append_nil,
          waits.pending.undecided] at decided
        cases decided
      · rw [waits.closes.mpr closes] at opened
        cases opened
  | late heard late => cases stage.symm.trans late.stage
  | decided left settled => exact absurd stage left
  | overflowed unfit overflowed =>
      have ended := isEnded_of_overflowed overflowed
      rw [isEnded, stage] at ended
      cases ended

/-- The limit has no effect if the login is settled whenever the time is over. -/
theorem follow_under
    (schedule : List Occurrence)
    (checks : ∀ occurrence ∈ schedule, occurrence.Checks plugin)
    (inTime : ∀ past, past <+: schedule → settings.handshakeMillis ≤ elapsed past →
      Settled plugin past) :
    (start settings ids scramble).1.follow schedule =
      ((start { settings with handshakeMillis := 0 } ids scramble).1.follow schedule).under
        settings := by
  induction schedule using List.reverseRecOn with
  | nil => exact start_under settings ids scramble
  | append_singleton past occurrence ih =>
      have checksPast : ∀ other ∈ past, other.Checks plugin :=
        fun other member => checks other (List.mem_append_left _ member)
      have side := ih checksPast fun earlier begins =>
        inTime earlier (begins.trans (List.prefix_append _ _))
      have course : Course plugin settings ids scramble past
        ((start settings ids scramble).1.follow past) := course_follow past checksPast
      have started : Reached Frame.maxPayload { settings with handshakeMillis := 0 } ids scramble
        (start { settings with handshakeMillis := 0 } ids scramble).1 := .greets
      have same := settings_reached (reached_follow started past)
      rw [follow_append, follow_append, side]
      rw [side] at course
      generalize (start { settings with handshakeMillis := 0 } ids scramble).1.follow past =
        session at same course ⊢
      cases occurrence with
      | arrives event =>
          have ended : (session.under settings).isEnded = session.isEnded := rfl
          rw [follow_cons, follow_cons, occur, occur, ended, absorb_under]
          split <;> rfl
      | turn services =>
          apply act_under services (by rw [same])
          rcases nextMove_under same with moves | ⟨stage, quiet, opened, overdue⟩
          · exact moves
          · obtain ⟨clock, unsettled⟩ := not_settled_of_quiet course stage quiet opened
            rw [isOverdue, Bool.and_eq_true, clock] at overdue
            exact absurd (inTime past (List.prefix_append _ _) (of_decide_eq_true overdue.2))
              unsettled

theorem follow_under_of_settled
    {early late : List Occurrence}
    (checks : ∀ occurrence ∈ early ++ late, occurrence.Checks plugin)
    (soon : elapsed early < settings.handshakeMillis)
    (settled : Settled plugin early) :
    (start settings ids scramble).1.follow (early ++ late) =
      ((start { settings with handshakeMillis := 0 } ids scramble).1.follow (early ++ late)).under
        settings := by
  apply follow_under (early ++ late) checks
  intro past begins passed
  rcases List.prefix_or_prefix_of_prefix begins (List.prefix_append early late) with
    ⟨rest, rfl⟩ | ⟨rest, rfl⟩
  · rw [elapsed_append] at soon
    omega
  · exact settled.append rest

theorem timesOut_of_unsettled
    {services : Services}
    {schedule : List Occurrence}
    (writable : Writable services.policy.plugin settings ids scramble)
    (checks : ∀ occurrence ∈ schedule, occurrence.Checks services.policy.plugin)
    (limited : 0 < settings.handshakeMillis)
    (passed : settings.handshakeMillis ≤ elapsed schedule)
    (unsettled : ¬ Settled services.policy.plugin schedule) :
    ∃ heard, Late services.policy.plugin settings ids scramble schedule heard
      (run services ((start settings ids scramble).1.follow schedule)) := by
  have started : Reached Frame.maxPayload settings ids scramble (start settings ids scramble).1 :=
    .greets
  have course := course_run (reached_follow started schedule) (course_follow schedule checks)
  exact late_of_course course writable limited passed unsettled (nextMove_run services _)

end Deadline

/-- The time limit bounds the whole login and nothing else. If the login is settled before the
time is over, the session goes the way of the session without a limit. If it is not settled
when the time is over, the session has sent its greeting and at most one request to switch,
nobody was asked about the login, and the session ends, whatever comes later. Without a limit
no session is ever out of time. -/
theorem deadline_bounds_the_login_alone
    (settings : Settings)
    (ids : ConnectionIds)
    (scramble : Scramble)
    (plugin : String)
    (schedule : List Occurrence) :
    let limit := settings.handshakeMillis
    let timed := (start settings ids scramble).1
    let untimed := (start { settings with handshakeMillis := 0 } ids scramble).1
    ((∀ occurrence ∈ schedule, occurrence.Checks plugin) →
      (∀ early late, schedule = early ++ late → elapsed early < limit → Settled plugin early →
        timed.follow schedule = (untimed.follow schedule).under settings) ∧
      (Writable plugin settings ids scramble → 0 < limit → limit ≤ elapsed schedule →
        ¬ Settled plugin schedule →
        ∀ services, services.policy.plugin = plugin →
          let final := run services (timed.follow schedule)
          final.result? = some (.error (timeoutOf limit)) ∧
            final.exchange.asked = [] ∧
            (∃ heard, heard <+: Frame.frames (arrived schedule) ∧ heard.length ≤ 1 ∧
              final.written.toList =
                greetingFrame settings ids scramble ::
                  heard.map (switchRequest plugin scramble)) ∧
            ∀ later, final.follow later = final)) ∧
      ¬ TimedOut (untimed.follow schedule) := by
  intro limit timed untimed
  constructor
  · intro checks
    constructor
    · rintro early late rfl soon settled
      exact follow_under_of_settled checks soon settled
    · rintro writable limited passed unsettled services rfl final
      obtain ⟨heard, late⟩ := timesOut_of_unsettled writable checks limited passed unsettled
      have ended : final.isEnded = true := by rw [isEnded, late.stage]
      refine ⟨?_, late.pending.asked, ⟨heard, late.hears, ?_, late.pending.sent⟩, ?_⟩
      · rw [result?, late.stage]
      · exact length_le_of_undecided late.pending.undecided
      · exact follow_ended ended
  · have started : Reached Frame.maxPayload { settings with handshakeMillis := 0 } ids scramble
        untimed := .greets
    exact not_timedOut_reached rfl (reached_follow started schedule)

/-- A login in the last millisecond is in time, and a part of one is not. -/
theorem login_at_the_last_moment_is_in_time :
    let settings : Settings := { handshakeMillis := 50 }
    let early : List Occurrence := [.arrives (.elapse 49), .arrives (.bytes rootLogin.bytes)]
    let late : List Occurrence := [.arrives (.elapse 500), .turn rootServices]
    let part : List Occurrence :=
      [.arrives (.bytes (rootLogin.bytes.take 7)), .turn rootServices, .arrives (.elapse 50)]
    let timed := (start settings {} (FixedBytes.zero 20)).1
    let untimed := (start { settings with handshakeMillis := 0 } {} (FixedBytes.zero 20)).1
    timed.follow (early ++ late) = (untimed.follow (early ++ late)).under settings ∧
      (untimed.follow (early ++ late)).exchange.handshake.phase = .authenticated ∧
      (run rootServices (timed.follow part)).result? = some (.error (timeoutOf 50)) := by
  intro settings early late part timed untimed
  have settled : Settled nativePasswordPlugin early := .inl (by decide +kernel)
  have unsettled : ¬ Settled nativePasswordPlugin part := by
    rintro (decided | closes)
    · have undecided : decides nativePasswordPlugin (Frame.frames (arrived part)) = false := by
        decide +kernel
      rw [undecided] at decided
      cases decided
    · simp [Closes, part] at closes
  have checks (schedule : List Occurrence) (served : ∀ occurrence ∈ schedule,
      occurrence = .turn rootServices ∨ ∃ event, occurrence = .arrives event) :
      ∀ occurrence ∈ schedule, occurrence.Checks nativePasswordPlugin := by
    intro occurrence member
    rcases served occurrence member with rfl | ⟨event, rfl⟩
    · rfl
    · trivial
  have writable : Writable nativePasswordPlugin settings {} (FixedBytes.zero 20) :=
    ⟨by decide +kernel, by decide +kernel⟩
  have bounded := (deadline_bounds_the_login_alone settings {} (FixedBytes.zero 20)
    nativePasswordPlugin (early ++ late)).1 (checks _ (by simp [early, late]))
  have bounds := (deadline_bounds_the_login_alone settings {} (FixedBytes.zero 20)
    nativePasswordPlugin part).1 (checks _ (by simp [part]))
  have admitted : (untimed.follow (early ++ late)).exchange.handshake.phase = .authenticated := by
    decide +kernel
  have same := bounded.1 early late rfl (by decide) settled
  have timesOut := bounds.2 writable (by decide) (by decide) unsettled rootServices rfl
  exact ⟨same, admitted, timesOut.1⟩

end SqlGate.Session
