import SqlGate.Proofs.Session.Delivery
import SqlGate.Proofs.Session.Schedule

/-!
# The pace of a client

A client may send its bytes in any pieces and at any times, and its server may lag behind.
As long as no time limit is hit, that changes nothing: at each moment a session is bound for
the same end, which depends on the bytes alone.
-/

namespace SqlGate.Session

set_option autoImplicit false

def output (session : Session) : Bytes := session.written.toList.flatMap Frame.bytes

/-- Sessions that come to the same for their client, for the policy and for the backend. -/
structure Agree (left right : Session) : Prop where
  output : left.output = right.output
  logins : left.exchange.asked = right.exchange.asked
  backend : left.exchange.backend = right.exchange.backend
  result : left.result? = right.result?

/-- What a session comes to, its transport apart, if these bytes are still to arrive and then
the stream ends. -/
def prospect (services : Services) (session : Session) (later : Bytes) : Session :=
  (play services session (Frame.frames (session.unread ++ later))).close.carrying {}

inductive Occurrence.Quiet (services : Services) : Occurrence → Prop where
  | arrives (event : Event) (quiet : event.isQuiet = true) : Quiet services (.arrives event)
  | turn : Quiet services (.turn services)

/-- The schedule feeds a session with a stream and then closes it, before the time is over. -/
inductive Feeds (services : Services) (limit : Nat) (stream : Bytes) :
    List Occurrence → Prop where
  | closing
      (before after : List Occurrence)
      (brings : arrived before = stream)
      (quietBefore : ∀ occurrence ∈ before, occurrence.Quiet services)
      (quietAfter : ∀ occurrence ∈ after, occurrence.Quiet services)
      (inTime : limit = 0 ∨ elapsed before < limit) :
      Feeds services limit stream (before ++ .arrives .inputEnd :: after)

section Prospect

variable (services : Services)
variable {session : Session}

theorem prospect_ended (ended : session.isEnded = true) (later : Bytes) :
    prospect services session later = session.carrying {} := by
  rw [prospect, play_ended services ended, close_ended ended]

theorem prospect_carrying (session : Session) (other : Transport) (later : Bytes) :
    prospect services (session.carrying other) later =
      (play services session (Frame.frames (other.unread ++ later))).close.carrying {} := by
  rw [prospect, play_carrying, close_carrying]
  rfl

theorem absorb_listening
    {event : Event}
    (quiet : event.isQuiet = true)
    (listens : session.inputEnded = false) :
    session.absorb event =
      session.carrying
        { session.transport with
          unread := session.unread ++ event.chunk
          clock := session.clock + event.millis } := by
  cases event with
  | bytes chunk =>
      rw [absorb, if_neg (ne_true_of_eq_false listens)]
      rfl
  | elapse millis =>
      simp only [Event.chunk, List.append_nil]
      rfl
  | inputEnd => cases quiet
  | stop => cases quiet

theorem prospect_absorb
    {event : Event}
    (quiet : event.isQuiet = true)
    (listens : session.inputEnded = false)
    (later : Bytes) :
    prospect services (session.absorb event) later =
      prospect services session (event.chunk ++ later) := by
  rw [absorb_listening quiet listens, prospect_carrying, prospect, List.append_assoc]

theorem prospect_answers
    {frame : Frame}
    {rest : Bytes}
    (found : Frame.read? session.unread = some (frame, rest))
    (later : Bytes) :
    prospect services
        ((session.answer services frame).carrying { session.transport with unread := rest })
        later =
      prospect services session later := by
  rw [prospect_carrying, prospect, Frame.frames_of_some (Frame.read?_append found later)]
  rfl

/-- A session whose stream has ended comes to the end that it was bound for. -/
theorem prospect_finish
    {result : Except Fault Unit}
    (steady : session.stopping = false)
    (closed : session.inputEnded = true)
    (moves : session.nextMove = .finish result) :
    prospect services session [] = (session.finish result).carrying {} := by
  have bare : Frame.read? session.unread = none ∧ session.close = session.finish result := by
    cases finishes_of_nextMove moves with
    | closed stage quiet => exact ⟨quiet, by rw [close, stage]⟩
    | overdue stage quiet listens =>
        rw [closed] at listens
        cases listens
    | served stage why =>
        rcases why with stops | ⟨quiet, _⟩
        · rw [steady] at stops
          cases stops
        · exact ⟨quiet, by rw [close, stage]⟩
  rw [prospect, List.append_nil, Frame.frames_of_none bare.1, play, List.foldl_nil, bare.2]

/-- A session in time ends of its own accord only when its stream has ended. -/
theorem inputEnded_of_finish
    {result : Except Fault Unit}
    (steady : session.stopping = false)
    (inTime : session.isOverdue = false)
    (moves : session.nextMove = .finish result) :
    session.inputEnded = true := by
  cases finishes_of_nextMove moves with
  | closed stage quiet inputEnded => exact inputEnded
  | overdue stage quiet listens late =>
      rw [inTime] at late
      cases late
  | served stage why =>
      rcases why with stops | ⟨_, inputEnded⟩
      · rw [steady] at stops
        cases stops
      · exact inputEnded

end Prospect

/-! ## Before the stream ends -/

structure Listening (limit : Nat) (session : Session) : Prop where
  limited : session.settings.handshakeMillis = limit
  listens : session.inputEnded = false
  steady : session.stopping = false

section Listening

variable {services : Services}
variable {limit : Nat}
variable {session : Session}

theorem isOverdue_of_clock
    (limited : session.settings.handshakeMillis = limit)
    (inTime : limit = 0 ∨ session.clock < limit) :
    session.isOverdue = false := by
  rw [isOverdue, limited]
  rcases inTime with unlimited | early
  · simp [unlimited]
  · simp [Nat.not_le.mpr early]

/-- What a quiet occurrence keeps, and where it leads. -/
theorem listening_occur
    {occurrence : Occurrence}
    (listening : Listening limit session)
    (goesOn : session.isEnded = false)
    (quiet : occurrence.Quiet services)
    (inTime : limit = 0 ∨ session.clock < limit) :
    Listening limit (session.occur occurrence) ∧
      (session.occur occurrence).clock = session.clock + elapsed [occurrence] ∧
      ∀ later,
        prospect services (session.occur occurrence) later =
          prospect services session (arrived [occurrence] ++ later) := by
  cases quiet with
  | arrives event quiet =>
      have takesIn : session.occur (.arrives event) = session.absorb event :=
        if_neg (ne_true_of_eq_false goesOn)
      rw [takesIn]
      refine ⟨?_, ?_, fun later => ?_⟩
      · rw [absorb_listening quiet listening.listens]
        exact ⟨listening.limited, listening.listens, listening.steady⟩
      · rw [absorb_listening quiet listening.listens]
        simp [carrying]
      · rw [prospect_absorb services quiet listening.listens]
        simp
  | turn =>
      have turns := turns_act services session
      change Listening limit (session.act services) ∧
        (session.act services).clock = session.clock + 0 ∧
        ∀ later, prospect services (session.act services) later = prospect services session later
      generalize session.act services = after at turns ⊢
      cases turns with
      | waits moves => exact ⟨listening, rfl, fun _ => rfl⟩
      | finishes result moves =>
          have overdue := isOverdue_of_clock listening.limited inTime
          have closed := inputEnded_of_finish listening.steady overdue moves
          rw [listening.listens] at closed
          cases closed
      | answers frame rest moves =>
          have settled := settings_answer services session frame
          have limited : (session.answer services frame).settings.handshakeMillis = limit := by
            rw [settled]
            exact listening.limited
          exact ⟨⟨limited, listening.listens, listening.steady⟩, rfl,
            prospect_answers services (read?_of_nextMove moves)⟩

theorem listening_follow
    {schedule : List Occurrence}
    (listening : Listening limit session)
    (quiet : ∀ occurrence ∈ schedule, occurrence.Quiet services)
    (inTime : limit = 0 ∨ session.clock + elapsed schedule < limit) :
    ((session.follow schedule).isEnded = true ∨ Listening limit (session.follow schedule)) ∧
      ∀ later,
        prospect services (session.follow schedule) later =
          prospect services session (arrived schedule ++ later) := by
  induction schedule generalizing session with
  | nil => exact ⟨.inr listening, fun _ => rfl⟩
  | cons occurrence rest ih =>
      cases ended : session.isEnded with
      | true =>
          rw [follow_ended ended]
          refine ⟨.inl ended, fun later => ?_⟩
          rw [prospect_ended services ended, prospect_ended services ended]
      | false =>
          have whole : elapsed (occurrence :: rest) = elapsed [occurrence] + elapsed rest :=
            elapsed_append [occurrence] rest
          have bytes : arrived (occurrence :: rest) = arrived [occurrence] ++ arrived rest :=
            arrived_append [occurrence] rest
          obtain ⟨stays, clock, step⟩ := listening_occur listening ended
            (quiet occurrence List.mem_cons_self) (by omega)
          obtain ⟨last, run⟩ := ih stays
            (fun other member => quiet other (List.mem_cons_of_mem _ member)) (by omega)
          refine ⟨last, fun later => ?_⟩
          rw [follow_cons, run, step, bytes, List.append_assoc]

end Listening

/-! ## After the stream has ended -/

def Closed (session : Session) : Prop :=
  session.isEnded = true ∨ session.inputEnded = true ∧ session.stopping = false

section Closed

variable {services : Services}
variable {session : Session}

theorem closed_occur
    {occurrence : Occurrence}
    (closed : Closed session)
    (quiet : occurrence.Quiet services) :
    Closed (session.occur occurrence) ∧
      prospect services (session.occur occurrence) [] = prospect services session [] := by
  rcases closed with ended | ⟨inputEnded, steady⟩
  · rw [occur_ended ended]
    exact ⟨.inl ended, rfl⟩
  cases quiet with
  | arrives event quiet =>
      have stays : session.absorb event = session.carrying
          { session.transport with clock := (session.absorb event).clock } := by
        cases event with
        | bytes chunk =>
            rw [absorb, if_pos inputEnded]
            rfl
        | elapse millis => rfl
        | inputEnd => cases quiet
        | stop => cases quiet
      rw [occur]
      split
      · exact ⟨.inr ⟨inputEnded, steady⟩, rfl⟩
      · rw [stays, prospect_carrying]
        exact ⟨.inr ⟨inputEnded, steady⟩, rfl⟩
  | turn =>
      have turns := turns_act services session
      rw [occur]
      generalize session.act services = after at turns ⊢
      cases turns with
      | waits moves => exact ⟨.inr ⟨inputEnded, steady⟩, rfl⟩
      | finishes result moves =>
          have ended : (session.finish result).isEnded = true := rfl
          rw [prospect_ended services ended, prospect_finish services steady inputEnded moves]
          exact ⟨.inl ended, rfl⟩
      | answers frame rest moves =>
          exact ⟨.inr ⟨inputEnded, steady⟩, prospect_answers services (read?_of_nextMove moves) []⟩

theorem closed_follow
    {schedule : List Occurrence}
    (closed : Closed session)
    (quiet : ∀ occurrence ∈ schedule, occurrence.Quiet services) :
    Closed (session.follow schedule) ∧
      prospect services (session.follow schedule) [] = prospect services session [] := by
  induction schedule generalizing session with
  | nil => exact ⟨closed, rfl⟩
  | cons occurrence rest ih =>
      obtain ⟨stays, same⟩ := closed_occur closed (quiet occurrence List.mem_cons_self)
      obtain ⟨last, run⟩ := ih stays fun other member => quiet other (List.mem_cons_of_mem _ member)
      exact ⟨last, run.trans same⟩

theorem isEnded_of_closed
    (closed : Closed session)
    (idle : session.nextMove = .wait) :
    session.isEnded = true := by
  rcases closed with ended | ⟨inputEnded, _⟩
  · exact ended
  · by_contra goesOn
    have listens := (idle_of_wait (eq_false_of_ne_true goesOn) idle).listens
    rw [inputEnded] at listens
    cases listens

end Closed

theorem run_fed
    {services : Services}
    {stream : Bytes}
    {session : Session}
    {schedule : List Occurrence}
    (fresh : session.transport = {})
    (feeds : Feeds services session.settings.handshakeMillis stream schedule) :
    let final := run services (session.follow schedule)
    final.isEnded = true ∧ final.carrying {} = prospect services session stream := by
  intro final
  cases feeds with
  | closing before after brings quietBefore quietAfter inTime =>
      have clock : session.clock = 0 := congrArg Transport.clock fresh
      have listening : Listening session.settings.handshakeMillis session :=
        ⟨rfl, congrArg Transport.inputEnded fresh, congrArg Transport.stopping fresh⟩
      obtain ⟨stands, bound⟩ := listening_follow listening quietBefore (by omega)
      let heard := session.follow before
      let shut := heard.occur (.arrives .inputEnd)
      have closes : Closed shut ∧ prospect services shut [] = prospect services session stream := by
        rw [← brings, ← List.append_nil (arrived before), ← bound []]
        rcases stands with ended | listening
        · rw [show shut = heard from occur_ended ended _]
          exact ⟨.inl ended, rfl⟩
        · by_cases ended : heard.isEnded = true
          · rw [show shut = heard from occur_ended ended _]
            exact ⟨.inl ended, rfl⟩
          · rw [show shut = heard.absorb .inputEnd from if_neg ended]
            refine ⟨.inr ⟨rfl, listening.steady⟩, ?_⟩
            exact prospect_carrying services heard { heard.transport with inputEnded := true } []
      -- The last turns are a schedule of their own.
      let count := (shut.follow after).unread.length + 1
      have turns : final = shut.follow (after ++ List.replicate count (.turn services)) := by
        rw [follow_append, follow_turns services (Nat.lt_succ_self _)]
        simp only [final, follow_append, follow_cons]
        rfl
      have quiet : ∀ occurrence ∈ after ++ List.replicate count (.turn services),
          occurrence.Quiet services := by
        intro occurrence member
        rcases List.mem_append.mp member with earlier | last
        · exact quietAfter occurrence earlier
        · rw [List.eq_of_mem_replicate last]
          exact .turn
      obtain ⟨last, leads⟩ := closed_follow closes.1 quiet
      rw [← turns] at last leads
      have ended := isEnded_of_closed last (nextMove_run services _)
      exact ⟨ended, by rw [← prospect_ended services ended [], leads, closes.2]⟩

theorem agree_of_carrying
    {left right : Session}
    {transport : Transport}
    (same : left.carrying transport = right.carrying transport) :
    Agree left right := by
  have agree : Agree (left.carrying transport) (right.carrying transport) := by
    rw [same]
    exact ⟨rfl, rfl, rfl, rfl⟩
  exact ⟨agree.output, agree.logins, agree.backend, agree.result⟩

/-- To handle all bytes at once and then the end of the stream is a delivery, too. -/
theorem feeds_at_once
    (services : Services)
    (session : Session)
    (stream : Bytes)
    (limit : Nat) :
    ∃ schedule,
      Feeds services limit stream schedule ∧
        run services (session.follow schedule) =
          [Event.bytes stream, .inputEnd].foldl (handle services) session := by
  obtain ⟨count, reads⟩ := handle_eq_follow services session (.bytes stream)
  obtain ⟨more, closes⟩ := handle_eq_follow services (handle services session (.bytes stream))
    .inputEnd
  let before : List Occurrence := .arrives (.bytes stream) :: List.replicate count (.turn services)
  have turns (amount : Nat) : ∀ occurrence ∈ List.replicate amount (Occurrence.turn services),
      occurrence.Quiet services := by
    intro occurrence member
    rw [List.eq_of_mem_replicate member]
    exact .turn
  have nothing (amount : Nat) : arrivals (List.replicate amount (.turn services)) = [] :=
    arrivals_turns services amount
  refine ⟨_, .closing before (List.replicate more (.turn services)) ?_ ?_ (turns more) ?_, ?_⟩
  · simp [before, arrived, nothing, Event.chunk]
  · intro occurrence member
    rcases List.mem_cons.mp member with rfl | turn
    · exact .arrives _ rfl
    · exact turns count occurrence turn
  · have none : elapsed before = 0 := by simp [before, elapsed, nothing, Event.millis]
    omega
  · rw [follow_append, ← reads, ← closes]
    exact run_of_wait services (nextMove_handle services _ _)

section Feeds

variable {services : Services}
variable {stream : Bytes}
variable {session : Session}
variable {first second : List Occurrence}

theorem agree_of_feeds
    (fresh : session.transport = {})
    (feeds : Feeds services session.settings.handshakeMillis stream first)
    (feedsToo : Feeds services session.settings.handshakeMillis stream second) :
    Agree (run services (session.follow first)) (run services (session.follow second)) := by
  obtain ⟨_, comes⟩ := run_fed fresh feeds
  obtain ⟨_, comesToo⟩ := run_fed fresh feedsToo
  exact agree_of_carrying (comes.trans comesToo.symm)

theorem result_of_feeds
    (fresh : session.transport = {})
    (feeds : Feeds services session.settings.handshakeMillis stream first) :
    ∃ result, (run services (session.follow first)).result? = some result := by
  obtain ⟨result, stage⟩ := stage_of_ended (run_fed fresh feeds).1
  exact ⟨result, by rw [result?, stage]⟩

theorem agree_at_once
    (fresh : session.transport = {})
    (feeds : Feeds services session.settings.handshakeMillis stream first) :
    Agree (run services (session.follow first))
      ([Event.bytes stream, .inputEnd].foldl (handle services) session) := by
  obtain ⟨schedule, atOnce, handled⟩ :=
    feeds_at_once services session stream session.settings.handshakeMillis
  rw [← handled]
  exact agree_of_feeds fresh feeds atOnce

end Feeds

/-- Two ways to deliver a stream of bytes, cut and delayed as they may be, and answered as late
as they may be, come to the same, if the stream ends in time. It is what comes of all bytes
at once. -/
theorem only_the_bytes_of_a_client_matter
    (settings : Settings)
    (ids : ConnectionIds)
    (scramble : Scramble)
    (services : Services)
    (stream : Bytes)
    {first second : List Occurrence}
    (feeds : Feeds services settings.handshakeMillis stream first)
    (feedsToo : Feeds services settings.handshakeMillis stream second) :
    let start := (start settings ids scramble).1
    let final (schedule : List Occurrence) := run services (start.follow schedule)
    Agree (final first) (final second) ∧
      (∃ result, (final first).result? = some result) ∧
      Agree (final first) ([Event.bytes stream, .inputEnd].foldl (handle services) start) := by
  intro start final
  obtain ⟨fresh, configured⟩ := start_fresh settings ids scramble
  rw [← configured] at feeds feedsToo
  have same := agree_of_feeds fresh feeds feedsToo
  have ends := result_of_feeds fresh feeds
  have atOnce := agree_at_once fresh feeds
  exact ⟨same, ends, atOnce⟩

/-- A login and a command, of which a part comes at once and the rest at the last moment. -/
theorem late_rest_of_a_login_is_in_time :
    let stream := rootLogin.bytes ++ Frame.bytes ⟨0, [0x0E]⟩
    let pieces : List Occurrence :=
      [.arrives (.bytes (stream.take 7)), .turn rootServices, .arrives (.elapse 49),
        .arrives (.bytes (stream.drop 7)), .turn rootServices, .arrives .inputEnd,
        .arrives (.elapse 500)]
    let whole : List Occurrence := [.arrives (.bytes stream), .arrives .inputEnd]
    let settings : Settings := { handshakeMillis := 50 }
    let final (schedule : List Occurrence) :=
      run rootServices ((start settings {} (FixedBytes.zero 20)).1.follow schedule)
    (final pieces).output = (final whole).output ∧ (final pieces).result? = some (.ok ()) := by
  intro stream pieces whole settings final
  have inPieces : Feeds rootServices 50 stream pieces := by
    refine .closing [_, _, _, _, _] [_] ?_ ?_ ?_ (.inr (by decide))
    · simp [Event.chunk]
    · intro occurrence member
      simp only [List.mem_cons, List.not_mem_nil, or_false] at member
      rcases member with rfl | rfl | rfl | rfl | rfl
      · exact .arrives _ rfl
      · exact .turn
      · exact .arrives _ rfl
      · exact .arrives _ rfl
      · exact .turn
    · intro occurrence member
      rw [List.mem_singleton.mp member]
      exact .arrives _ rfl
  have atOnce : Feeds rootServices 50 stream whole := by
    refine .closing [_] [] ?_ ?_ ?_ (.inr (by decide))
    · simp [Event.chunk]
    · intro occurrence member
      rw [List.mem_singleton.mp member]
      exact .arrives _ rfl
    · simp
  have agree := (only_the_bytes_of_a_client_matter settings {} (FixedBytes.zero 20) rootServices
    stream inPieces atOnce).1
  have served : (final whole).result? = some (.ok ()) := by decide +kernel
  exact ⟨agree.output, agree.result.trans served⟩

end SqlGate.Session
