import SqlGate.Proofs.Handshake.Ways

/-!
# Handshakes that were begun elsewhere

A handshake can be given a challenge, as if it had put it to the client itself, and also the
attempt of a client that was asked to switch. From there it goes on like the handshake that
they were taken from. The two may differ in the numbers of earlier packets and in the flags
of the client, and no later call shows either.
-/

namespace SqlGate

set_option autoImplicit false

def Exchange.resumed (exchange : Exchange) (challenge : Challenge) (phase : Handshake.Phase) :
    Exchange :=
  { exchange with handshake := exchange.handshake.resume challenge phase }

def Exchange.resumedAt
    (exchange : Exchange)
    (challenge : Challenge)
    (attempt : LoginAttempt) :
    Exchange :=
  let resumed := exchange.resumed challenge .methodMismatch
  { resumed with handshake := resumed.handshake.resumeAttempt attempt }

namespace Handshake

variable {Source : Type}

/-! ## What a call shows -/

structure Report where
  answer : Answer
  sent : List Outbound
  frames : List Frame
  asked : List Credentials
  admitted : Option Backend
  phase : Phase
  attempt : Option LoginAttempt
  authResponse : Bytes

def Report.of (before : Exchange) (answer : Answer) (after : Exchange) : Report where
  answer := answer
  sent := after.sent.drop before.sent.length
  frames :=
    (after.sent.drop before.sent.length).map (·.frame after.handshake.capabilities)
  asked := after.asked.drop before.asked.length
  admitted := if answer = .concluded .authenticated then some after.backend else none
  phase := after.handshake.phase
  attempt := after.handshake.attempt
  authResponse := after.handshake.authResponse

def transcript (services : Source → Services) : Exchange → List (Call Source) → List Report
  | _, [] => []
  | before, call :: later =>
      let (answer, after) := perform services before call
      .of before answer after :: transcript services after later

/-! ## Rulings -/

def Ruling.switch (plugin : String) (scramble : Scramble) : Ruling where
  outcome := .switchRequested
  packet := .switchRequest { plugin, data := scramble.toList }

theorem switched_eq_ruled (exchange : Exchange) (plugin : String) (scramble : Scramble) :
    exchange.switched plugin scramble = exchange.ruled (.switch plugin scramble) := by
  simp [Exchange.switched, Exchange.ruled, Ruling.switch, Outcome.phase, Exchange.replied]

/-- A ruling gives a backend just to those whom it admits. -/
def Ruling.Fair (verdict : Ruling) : Prop :=
  verdict.backend.isSome = decide (verdict.outcome = .authenticated)

theorem fair_ruling
    (services : Services)
    (host : String)
    (challenge : Challenge)
    (attempt : LoginAttempt) :
    (ruling services host challenge attempt).Fair := by
  have ruled := ruled_ruling services host challenge attempt
  generalize ruling services host challenge attempt = verdict at ruled ⊢
  cases ruled with
  | unknownSchema missing => rfl
  | refused schema code found denied => rfl
  | admitted schema found passed => rfl

def Ruling.report (verdict : Ruling) (handshake : Handshake) : Report where
  answer := .concluded verdict.outcome
  sent := [⟨handshake.replies.nextSequence, verdict.packet⟩]
  frames := [⟨handshake.replies.nextSequence, verdict.packet.encode handshake.capabilities⟩]
  asked := verdict.asked
  admitted := verdict.backend
  phase := verdict.outcome.phase
  attempt := handshake.attempt
  authResponse := handshake.authResponse

theorem report_ruled
    {verdict : Ruling}
    (fair : verdict.Fair)
    (before : Exchange)
    (handshake : Handshake) :
    Report.of before (.concluded verdict.outcome)
        (({ before with handshake } : Exchange).ruled verdict) =
      verdict.report handshake := by
  have admitted : (if verdict.outcome = .authenticated then
      some (verdict.backend.getD before.backend) else none) = verdict.backend := by
    unfold Ruling.Fair at fair
    by_cases admits : verdict.outcome = .authenticated
    · cases given : verdict.backend with
      | none => simp [given, admits] at fair
      | some backend => simp [admits]
    · cases given : verdict.backend with
      | none => simp [admits]
      | some backend => simp [given, admits] at fair
  simp [Report.of, Ruling.report, Exchange.ruled, Exchange.replied, ReplyStream.emit,
    Outbound.frame, Handshake.capabilities, admitted]

/-- Under one ruling two calls show the same, if both clients speak 4.1. -/
theorem report_ruled_congr
    (verdict : Ruling)
    (fair : verdict.Fair)
    {one other : Exchange}
    {handshake handshakeToo : Handshake}
    (number : handshake.replies.nextSequence = handshakeToo.replies.nextSequence)
    (attempt : handshake.attempt = handshakeToo.attempt)
    (response : handshake.authResponse = handshakeToo.authResponse)
    (speaks : handshake.capabilities.has .protocol41 = true)
    (speaksToo : handshakeToo.capabilities.has .protocol41 = true) :
    Report.of one (.concluded verdict.outcome)
        (({ one with handshake } : Exchange).ruled verdict) =
      Report.of other (.concluded verdict.outcome)
        (({ other with handshake := handshakeToo } : Exchange).ruled verdict) := by
  have encoded : verdict.packet.encode handshake.capabilities =
      verdict.packet.encode handshakeToo.capabilities :=
    verdict.packet.encode_congr (speaks.trans speaksToo.symm)
  rw [report_ruled fair, report_ruled fair]
  simp only [Ruling.report, number, attempt, response, encoded]

/-- A login that could be read tells that its client speaks 4.1, whatever was known before. -/
theorem report_recorded_congr
    (verdict : Ruling)
    (fair : verdict.Fair)
    {one other : Exchange}
    {challenge challengeToo : Challenge}
    (put : one.handshake.challenge = some challenge)
    (putToo : other.handshake.challenge = some challengeToo)
    {packet : Inbound Source}
    {login : LoginPacket}
    (decoded : LoginPacket.decode packet.payload = .ok login) :
    Report.of one (.concluded verdict.outcome)
        (((one.answering packet.sequence).recorded login).ruled verdict) =
      Report.of other (.concluded verdict.outcome)
        (((other.answering packet.sequence).recorded login).ruled verdict) := by
  have told := (LoginPacket.decode_ensures decoded).1.protocol41
  have speaks : ((one.answering packet.sequence).recorded login).handshake.capabilities =
      login.capabilities := capabilities_of_challenge (challenge_record put login)
  have speaksToo : ((other.answering packet.sequence).recorded login).handshake.capabilities =
      login.capabilities := capabilities_of_challenge (challenge_record putToo login)
  apply report_ruled_congr verdict fair
  · rfl
  · rfl
  · rfl
  · exact speaks ▸ told
  · exact speaksToo ▸ told

/-! ## Handshakes on one challenge -/

/-- The flags are those that the client has announced since, or what was offered to it. -/
structure StandsOn
    (host : String)
    (connectionId : UInt32)
    (scramble : Scramble)
    (handshake : Handshake) :
    Prop where
  standing : Standing handshake
  host : handshake.host = host
  put : ∃ capabilities,
    handshake.challenge = some { connectionId, scramble, capabilities } ∧
      capabilities.has .protocol41 = true
  captured : handshake.authResponse = (handshake.attempt.map (·.authResponse)).getD []

section StandsOn

variable {services : Source → Services}
variable {host : String}
variable {connectionId : UInt32}
variable {scramble : Scramble}
variable {before after one other : Exchange}
variable {call : Call Source}
variable {answer : Answer}

theorem StandsOn.isPut {handshake : Handshake}
    (stands : StandsOn host connectionId scramble handshake) :
    handshake.challenge.isSome = true := by
  obtain ⟨capabilities, put, _⟩ := stands.put
  exact Option.isSome_of_eq_some put

theorem StandsOn.speaks {handshake : Handshake}
    (stands : StandsOn host connectionId scramble handshake) :
    handshake.capabilities.has .protocol41 = true := by
  obtain ⟨capabilities, put, speaks⟩ := stands.put
  rw [capabilities_of_challenge put]
  exact speaks

theorem standsOn_turn
    (stands : StandsOn host connectionId scramble before.handshake)
    (turn : Turn services before call answer after) :
    StandsOn host connectionId scramble after.handshake := by
  have standing := standing_turn stands.standing turn
  obtain ⟨_, sameHost, ⟨capabilities, known, speaks⟩, captured⟩ := stands
  cases turn with
  | greeted scramble phase unput => cases known.symm.trans unput
  | greetedAlready scramble put phase =>
      exact ⟨standing, sameHost, ⟨capabilities, known, speaks⟩, captured⟩
  | malformed packet challenge problem phase put broken =>
      exact ⟨standing, sameHost, ⟨capabilities, known, speaks⟩, captured⟩
  | judged packet challenge login phase put decoded plugin verdict made =>
      have told := (LoginPacket.decode_ensures decoded).1.protocol41
      exact ⟨standing, sameHost, ⟨login.capabilities, challenge_record known login, told⟩, rfl⟩
  | switched packet challenge login phase put decoded plugin =>
      have told := (LoginPacket.decode_ensures decoded).1.protocol41
      exact ⟨standing, sameHost, ⟨login.capabilities, challenge_record known login, told⟩, rfl⟩
  | judgedAnew packet challenge attempt phase put recorded verdict made =>
      exact ⟨standing, sameHost, ⟨capabilities, known, speaks⟩, rfl⟩
  | untimely packet notFast notSwitched =>
      exact ⟨standing, sameHost, ⟨capabilities, known, speaks⟩, captured⟩

theorem standsOn_perform
    (stands : StandsOn host connectionId scramble before.handshake)
    (call : Call Source) :
    StandsOn host connectionId scramble (perform services before call).2.handshake :=
  standsOn_turn stands (turn_perform services stands.standing call)

theorem standsOn_run
    (stands : StandsOn host connectionId scramble before.handshake)
    (calls : List (Call Source)) :
    StandsOn host connectionId scramble (run services before calls).handshake := by
  induction calls generalizing before with
  | nil => exact stands
  | cons call later ih =>
      rw [run_cons]
      exact ih (standsOn_perform stands call)

theorem report_refused
    (violation : Violation)
    (phase : one.handshake.phase = other.handshake.phase)
    (attempt : one.handshake.attempt = other.handshake.attempt)
    (response : one.handshake.authResponse = other.handshake.authResponse) :
    Report.of one (.refused violation) one = Report.of other (.refused violation) other := by
  simp [Report.of, phase, attempt, response]

/-- Where two handshakes on one challenge stand alike, a call shows the same of both. -/
theorem report_turn
    (stands : StandsOn host connectionId scramble one.handshake)
    (standsToo : StandsOn host connectionId scramble other.handshake)
    (samePhase : one.handshake.phase = other.handshake.phase)
    (sameAttempt : one.handshake.attempt = other.handshake.attempt)
    (turn : Turn services one call answer after) :
    Report.of one answer after =
      Report.of other (perform services other call).1 (perform services other call).2 := by
  have sameResponse : one.handshake.authResponse = other.handshake.authResponse := by
    rw [stands.captured, standsToo.captured, sameAttempt]
  have sameHost : other.handshake.host = one.handshake.host := standsToo.host.trans stands.host.symm
  obtain ⟨flags, known, speaks⟩ := stands.put
  obtain ⟨otherFlags, knownToo, speaksToo⟩ := standsToo.put
  cases turn with
  | greeted scramble phase unput => cases known.symm.trans unput
  | greetedAlready scramble put phase =>
      rw [perform, run_greet_again other scramble standsToo.isPut]
      exact report_refused _ samePhase sameAttempt sameResponse
  | malformed packet challenge problem phase put broken =>
      rw [perform_malformed services packet (samePhase ▸ phase) knownToo broken]
      exact report_ruled_congr .malformed rfl rfl sameAttempt sameResponse stands.speaks
        standsToo.speaks
  | judged packet challenge login phase put decoded plugin verdict made =>
      cases known.symm.trans put
      have fair : verdict.Fair := made ▸ fair_ruling ..
      have madeToo : verdict = ruling (services packet.source) other.handshake.host
          { connectionId, scramble, capabilities := otherFlags } (.ofPacket login) := by
        rw [made, sameHost]
        exact (ruling_congr _ _ _ rfl rfl rfl).symm
      rw [perform_negotiated services packet (samePhase ▸ phase) knownToo decoded plugin madeToo]
      exact report_recorded_congr verdict fair known knownToo decoded
  | switched packet challenge login phase put decoded plugin =>
      cases known.symm.trans put
      rw [perform_unnegotiated services packet (samePhase ▸ phase) knownToo decoded plugin,
        switched_eq_ruled, switched_eq_ruled]
      exact report_recorded_congr (.switch _ scramble) rfl known knownToo decoded
  | judgedAnew packet challenge attempt phase put recorded verdict made =>
      cases known.symm.trans put
      have fair : verdict.Fair := made ▸ fair_ruling ..
      have madeToo : verdict = ruling (services packet.source) other.handshake.host
          { connectionId, scramble, capabilities := otherFlags }
          { attempt with authResponse := packet.payload } := by
        rw [made, sameHost]
        exact (ruling_congr _ _ _ rfl rfl rfl).symm
      rw [perform_switchAnswer services packet (samePhase ▸ phase) knownToo
        (sameAttempt ▸ recorded) madeToo]
      exact report_ruled_congr verdict fair rfl rfl rfl stands.speaks standsToo.speaks
  | untimely packet notFast notSwitched =>
      rw [samePhase] at notFast notSwitched ⊢
      rw [perform_untimely services packet notFast notSwitched]
      exact report_refused _ samePhase sameAttempt sameResponse

/-- Handshakes on one challenge that stand alike go on alike under any calls. -/
theorem transcript_congr
    (stands : StandsOn host connectionId scramble one.handshake)
    (standsToo : StandsOn host connectionId scramble other.handshake)
    (samePhase : one.handshake.phase = other.handshake.phase)
    (sameAttempt : one.handshake.attempt = other.handshake.attempt)
    (calls : List (Call Source)) :
    transcript services one calls = transcript services other calls := by
  induction calls generalizing one other with
  | nil => rfl
  | cons call later ih =>
      have turn := turn_perform services stands.standing call
      have same := report_turn stands standsToo samePhase sameAttempt turn
      rw [transcript, transcript]
      dsimp only
      rw [same]
      -- The phase and the attempt after the call are part of what it shows.
      rw [ih (standsOn_perform stands call) (standsOn_perform standsToo call)
        (congrArg Report.phase same) (congrArg Report.attempt same)]

end StandsOn

/-! ## Resumed handshakes -/

/-- A new connection that awaits the login packet: it has put this challenge to its client, or
the challenge was given to it. -/
inductive Opened
    (host : String)
    (connectionId : UInt32)
    (scramble : Scramble) :
    Exchange → Prop where
  | greeted
      (ids : ConnectionIds)
      (serverVersion : String)
      (backend : Backend)
      (after : Exchange)
      (greets :
        (greet scramble).run (.fresh ids serverVersion host backend) = .ok connectionId after) :
      Opened host connectionId scramble after
  | resumed (ids : ConnectionIds) (serverVersion : String) (backend : Backend) :
      Opened host connectionId scramble
        ((Exchange.fresh ids serverVersion host backend).resumed { connectionId, scramble }
          .fastPath)

section Opened

variable {host : String}
variable {connectionId : UInt32}
variable {scramble : Scramble}

theorem Opened.standsOn {exchange : Exchange}
    (opened : Opened host connectionId scramble exchange) :
    StandsOn host connectionId scramble exchange.handshake ∧
      exchange.handshake.phase = .fastPath ∧
      exchange.handshake.attempt = none := by
  have offers := Capabilities.serverDefault_protocol41.1
  cases opened with
  | greeted ids serverVersion backend after greets =>
      rw [run_greet _ scramble rfl rfl] at greets
      cases greets
      exact ⟨⟨rfl, rfl, ⟨.serverDefault, rfl, offers⟩, rfl⟩, rfl, rfl⟩
  | resumed ids serverVersion backend =>
      exact ⟨⟨rfl, rfl, ⟨.serverDefault, rfl, offers⟩, rfl⟩, rfl, rfl⟩

theorem standsOn_resumedAt
    (host : String)
    (connectionId : UInt32)
    (scramble : Scramble)
    (attempt : LoginAttempt)
    (ids : ConnectionIds)
    (serverVersion : String)
    (backend : Backend) :
    StandsOn host connectionId scramble
      ((Exchange.fresh ids serverVersion host backend).resumedAt { connectionId, scramble }
        attempt).handshake where
  standing := ⟨rfl, rfl⟩
  host := rfl
  put := ⟨.serverDefault, rfl, Capabilities.serverDefault_protocol41.1⟩
  captured := rfl

/-- A handshake that was given its challenge answers every sequence of calls as the one that
put the challenge to its client. Where a client has been asked to switch, a new handshake that
is given the challenge and the attempt answers all further calls as that one does. -/
theorem resumed_handshakes_go_on_alike
    (services : Source → Services)
    {one other : Exchange}
    (opened : Opened host connectionId scramble one)
    (openedToo : Opened host connectionId scramble other)
    (calls : List (Call Source)) :
    transcript services one calls = transcript services other calls ∧
      let reached := run services one calls
      (reached.handshake.phase = .methodMismatch →
        ∃ attempt,
          reached.handshake.attempt = some attempt ∧
            ∀ ids serverVersion backend later,
              let anew := (Exchange.fresh ids serverVersion host backend).resumedAt
                { connectionId, scramble } attempt
              transcript services reached later = transcript services anew later) := by
  obtain ⟨stands, phase, unmade⟩ := opened.standsOn
  obtain ⟨standsToo, phaseToo, unmadeToo⟩ := openedToo.standsOn
  constructor
  · apply transcript_congr stands standsToo
    · rw [phase, phaseToo]
    · rw [unmade, unmadeToo]
  · intro reached switched
    have standing : StandsOn host connectionId scramble reached.handshake :=
      standsOn_run stands calls
    have made : reached.handshake.attempt.isSome = true := by
      have waits := standing.standing
      simp only [Standing, switched] at waits
      exact waits.2
    obtain ⟨attempt, recorded⟩ := Option.isSome_iff_exists.mp made
    refine ⟨attempt, recorded, ?_⟩
    intro ids serverVersion backend later anew
    exact transcript_congr standing (standsOn_resumedAt ..) switched recorded later

end Opened

theorem stranger_is_asked_alike_after_resumption :
    let services := fun _ : Unit => Services.ofRegistries {} {}
    let scramble : Scramble := FixedBytes.zero 20
    let greeted := (Exchange.fresh {} defaultServerVersion "localhost" {}).greeted scramble
    let resumed := (Exchange.fresh {} "" "localhost" {}).resumed { connectionId := 1, scramble }
      .fastPath
    let inquiry : Inbound Unit := ⟨(), 1, strangerInquiry.encode⟩
    transcript services greeted [inquiry.call] = transcript services resumed [inquiry.call] ∧
      ∃ attempt,
        (run services greeted [inquiry.call]).handshake.attempt = some attempt ∧
          ∀ answer : Inbound Unit,
            transcript services (run services greeted [inquiry.call]) [answer.call] =
              transcript services
                ((Exchange.fresh {} "" "localhost" {}).resumedAt { connectionId := 1, scramble }
                  attempt)
                [answer.call] := by
  intro services scramble greeted resumed inquiry
  have read : LoginPacket.decode inquiry.payload = .ok strangerInquiry := by decide +kernel
  have switched : (run services greeted [inquiry.call]).handshake.phase = .methodMismatch := by
    rw [run_cons, perform_unnegotiated services inquiry rfl rfl read rfl]
    rfl
  obtain ⟨alike, goesOn⟩ := resumed_handshakes_go_on_alike services
    (.greeted {} defaultServerVersion {} greeted (run_greet _ scramble rfl rfl))
    (.resumed {} "" {}) [inquiry.call]
  obtain ⟨attempt, recorded, further⟩ := goesOn switched
  exact ⟨alike, attempt, recorded, fun answer => further {} "" {} [answer.call]⟩

end Handshake

end SqlGate
