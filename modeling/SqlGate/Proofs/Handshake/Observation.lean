import SqlGate.Proofs.Handshake.Progress

/-!
# What can be observed of a handshake

Apart from the questions to the policy, all of a run can be observed: the answers, the
packets, the phases and the backend. Two runs of the same calls are alike in all of it
if their services rule alike on the login that the calls settle.
-/

namespace SqlGate

set_option autoImplicit false

/-- All of an exchange but what the policy was asked. -/
def Exchange.outward (exchange : Exchange) : Exchange := { exchange with asked := [] }

namespace Handshake

variable {Source : Type}

def Ruling.outward (ruling : Ruling) : Ruling := { ruling with asked := [] }

def observeCall
    (services : Source → Services)
    (exchange : Exchange)
    (call : Call Source) :
    Answer × Exchange :=
  let (answer, after) := perform services exchange call
  (answer, after.outward)

def observe (services : Source → Services) (exchange : Exchange) :
    List (Call Source) → List (Answer × Exchange)
  | [] => []
  | call :: rest =>
      observeCall services exchange call ::
        observe services (perform services exchange call).2 rest

theorem observe_append
    (services : Source → Services)
    (exchange : Exchange)
    (earlier : List (Call Source))
    (call : Call Source) :
    observe services exchange (earlier ++ [call]) =
      observe services exchange earlier ++
        [observeCall services (run services exchange earlier) call] := by
  induction earlier generalizing exchange with
  | nil => rfl
  | cons first rest ih =>
      rw [List.cons_append, observe, observe, run_cons, List.cons_append, ih]

/-- The calls come to a packet that decides the login with this response. -/
def Settles
    (services : Source → Services)
    (calls : List (Call Source))
    (scramble : Scramble)
    (packet : Inbound Source)
    (login : LoginPacket)
    (response : Bytes) :
    Prop :=
  ∃ earlier later,
    opening? calls = some (scramble, earlier ++ packet :: later) ∧
      Decides services earlier packet login response

section Settles

variable {services : Source → Services}
variable {calls : List (Call Source)}
variable {scramble : Scramble}
variable {packet : Inbound Source}
variable {login : LoginPacket}
variable {response : Bytes}

theorem Settles.append
    (settles : Settles services calls scramble packet login response)
    (call : Call Source) :
    Settles services (calls ++ [call]) scramble packet login response := by
  obtain ⟨earlier, later, opened, decides⟩ := settles
  cases call with
  | greet second =>
      refine ⟨earlier, later, ?_, decides⟩
      rw [opening?_greet, opened, Option.some_or]
  | receive source sequence payload =>
      refine ⟨earlier, later ++ [⟨source, sequence, payload⟩], ?_, decides⟩
      have opening := opening?_receive calls ⟨source, sequence, payload⟩
      rw [opened, Option.map_some] at opening
      simpa [Inbound.call] using opening

theorem settles_last
    {earlier : List (Inbound Source)}
    (opened : opening? calls = some (scramble, earlier))
    (decides : Decides services earlier packet login response) :
    Settles services (calls ++ [packet.call]) scramble packet login response := by
  refine ⟨earlier, [], ?_, decides⟩
  rw [opening?_receive, opened, Option.map_some]

/-- After a greeting and one packet, only the login in that packet can be settled. -/
theorem settles_first
    {greeted : Scramble}
    {first : Inbound Source}
    (settles : Settles services [.greet greeted, first.call] scramble packet login response) :
    scramble = greeted ∧
      packet = first ∧
      LoginPacket.decode first.payload = .ok login ∧
      response = login.authResponse := by
  obtain ⟨earlier, later, opened, decides⟩ := settles
  obtain ⟨sameScramble, packets⟩ := Prod.mk.inj (Option.some.inj opened)
  cases decides with
  | atOnce packet login decoded plugin =>
      cases packets
      exact ⟨sameScramble.symm, rfl, decoded, rfl⟩
  | afterSwitch first packet login decoded plugin => cases packets

end Settles

/-- Once a login is settled, the last packet, the phase and the backend are as the ruling on
it has them. -/
theorem run_settled
    (services : Source → Services)
    (ids : ConnectionIds)
    (serverVersion host : String)
    (backend : Backend)
    {calls : List (Call Source)}
    {scramble : Scramble}
    {packet : Inbound Source}
    {login : LoginPacket}
    {response : Bytes}
    (settles : Settles services calls scramble packet login response) :
    let start := Exchange.fresh ids serverVersion host backend
    let verdict := ruling (services packet.source) host (start.offer scramble)
      (login.attempt response)
    let final := run services start calls
    final.handshake.phase = verdict.outcome.phase ∧
      final.backend = verdict.backend.getD { backend with connectionId := ids.draw.1 } ∧
      final.sent.getLast? = some ⟨packet.sequence + 1, verdict.packet⟩ := by
  intro start verdict final
  obtain ⟨earlier, later, opened, decides⟩ := settles
  have progress := (progress_run services ids serverVersion host backend calls).2
  rw [opened] at progress
  obtain ⟨asking, _, kept, follows, ended⟩ := progress.of_decided decides
  rw [show final = asking.ruled verdict from ended]
  refine ⟨rfl, congrArg verdict.backend.getD kept, ?_⟩
  rw [Exchange.ruled, Exchange.replied, List.getLast?_concat, ReplyStream.emit, follows]

theorem run_of_refusal
    {services : Source → Services}
    (ids : ConnectionIds)
    (serverVersion host : String)
    (backend : Backend)
    {calls : List (Call Source)}
    {scramble : Scramble}
    {packet : Inbound Source}
    {login : LoginPacket}
    {response : Bytes}
    {code : ErrorCode}
    {values : List String}
    (settles : Settles services calls scramble packet login response)
    (refuses : (ruling (services packet.source) host
      ((Exchange.fresh ids serverVersion host backend).offer scramble)
      (login.attempt response)).outward = .refusal code values []) :
    let final := run services (.fresh ids serverVersion host backend) calls
    final.handshake.phase = .rejected ∧
      final.backend = { backend with connectionId := ids.draw.1 } ∧
      final.sent.getLast? = some ⟨packet.sequence + 1, .err (code.packet values)⟩ := by
  intro final
  let verdict := ruling (services packet.source) host
    ((Exchange.fresh ids serverVersion host backend).offer scramble) (login.attempt response)
  have outcome : verdict.outcome = .rejected code := congrArg Ruling.outcome refuses
  have reply : verdict.packet = .err (code.packet values) := congrArg Ruling.packet refuses
  have unchanged : verdict.backend = none := congrArg Ruling.backend refuses
  obtain ⟨phase, changed, last⟩ := run_settled services ids serverVersion host backend settles
  refine ⟨phase.trans (congrArg Outcome.phase outcome), ?_, ?_⟩
  · rw [show final.backend = verdict.backend.getD _ from changed, unchanged, Option.getD_none]
  · rw [show final.sent.getLast? = some ⟨packet.sequence + 1, verdict.packet⟩ from last, reply]

def RuleAlike
    (left right : Source → Services)
    (start : Exchange)
    (calls : List (Call Source)) :
    Prop :=
  ∀ scramble packet login response,
    Settles left calls scramble packet login response →
      (ruling (left packet.source) start.handshake.host (start.offer scramble)
          (login.attempt response)).outward =
        (ruling (right packet.source) start.handshake.host (start.offer scramble)
          (login.attempt response)).outward

theorem outward_ruled
    {one other : Exchange}
    {verdict ruling : Ruling}
    (alike : one.outward = other.outward)
    (agree : verdict.outward = ruling.outward) :
    (one.ruled verdict).outward = (other.ruled ruling).outward := by
  have both : one.outward.ruled verdict.outward = other.outward.ruled ruling.outward := by
    rw [alike, agree]
  exact both

section Alike

variable {left right : Source → Services}
variable {start before other after : Exchange}
variable {calls : List (Call Source)}
variable {call : Call Source}
variable {answer : Answer}

theorem RuleAlike.of_append (rulings : RuleAlike left right start (calls ++ [call])) :
    RuleAlike left right start calls := by
  intro scramble packet login response settles
  exact rulings scramble packet login response (settles.append call)

/-- A call that does something to one exchange does the same to one that looks alike. -/
theorem perform_alike
    (initial : start.handshake.phase = .initial)
    (plugins : ∀ source, (left source).policy.plugin = (right source).policy.plugin)
    (rulings : RuleAlike left right start (calls ++ [call]))
    (progress : Progress left start (opening? calls) before)
    (turn : Turn left before call answer after)
    (alike : before.outward = other.outward) :
    answer = (perform right other call).1 ∧
      after.outward = (perform right other call).2.outward := by
  have handshake : other.handshake = before.handshake :=
    (congrArg Exchange.handshake alike).symm
  cases turn with
  | greeted scramble phase unput =>
      rw [← handshake] at phase unput
      rw [perform, run_greet other scramble phase unput]
      exact ⟨congrArg (fun exchange => Answer.numbered exchange.ids.draw.1) alike,
        congrArg (·.greeted scramble) alike⟩
  | greetedAlready scramble put phase =>
      rw [← handshake] at put
      rw [perform, run_greet_again other scramble put]
      exact ⟨rfl, alike⟩
  | malformed packet challenge problem phase put broken =>
      rw [← handshake] at phase put
      rw [perform_malformed right packet phase put broken]
      exact ⟨rfl, congrArg (fun exchange => (exchange.answering packet.sequence).ruled .malformed)
        alike⟩
  | judged packet challenge login phase put decoded plugin verdict made =>
      obtain ⟨scramble, opened, rfl⟩ := progress.of_fastPath initial phase
      cases put
      let otherVerdict := ruling (right packet.source) other.handshake.host (start.offer scramble)
        (.ofPacket login)
      have agree : verdict.outward = otherVerdict.outward := by
        have settles := settles_last opened (.atOnce packet login decoded plugin)
        have agree := rulings scramble packet login login.authResponse settles
        rw [made]
        simp only [otherVerdict, handshake]
        exact agree
      have put : other.handshake.challenge = some (start.offer scramble) := by
        rw [handshake]
        rfl
      rw [← handshake] at phase
      rw [plugins] at plugin
      rw [perform_negotiated right packet phase put decoded plugin rfl]
      refine ⟨congrArg (fun ruling => Answer.concluded ruling.outcome) agree, ?_⟩
      apply outward_ruled _ agree
      exact congrArg (fun exchange => (exchange.answering packet.sequence).recorded login) alike
  | switched packet challenge login phase put decoded plugin =>
      rw [← handshake] at phase put
      rw [plugins] at plugin
      rw [perform_unnegotiated right packet phase put decoded plugin, plugins]
      exact ⟨rfl, congrArg (fun exchange =>
        ((exchange.answering packet.sequence).recorded login).switched
          (right packet.source).policy.plugin challenge.scramble) alike⟩
  | judgedAnew packet challenge attempt phase put recorded verdict made =>
      obtain ⟨scramble, first, login, opened, decoded, plugin, rfl⟩ :=
        progress.of_methodMismatch initial phase
      cases put
      cases recorded
      let challenge := { start.offer scramble with capabilities := login.capabilities }
      let otherVerdict := ruling (right packet.source) other.handshake.host challenge
        (login.attempt packet.payload)
      have agree : verdict.outward = otherVerdict.outward := by
        have settles := settles_last opened (.afterSwitch first packet login decoded plugin)
        have agree := rulings scramble packet login packet.payload settles
        rw [made]
        simp only [otherVerdict, handshake]
        exact agree
      have put : other.handshake.challenge = some challenge := by
        rw [handshake]
        rfl
      have recorded : other.handshake.attempt = some (.ofPacket login) := by
        rw [handshake]
        rfl
      rw [← handshake] at phase
      rw [perform_switchAnswer right packet phase put recorded rfl]
      refine ⟨congrArg (fun ruling => Answer.concluded ruling.outcome) agree, ?_⟩
      apply outward_ruled _ agree
      exact congrArg (fun exchange =>
        (exchange.answering packet.sequence).responded (.ofPacket login) packet.payload) alike
  | untimely packet notFast notSwitched =>
      rw [← handshake] at notFast notSwitched
      rw [perform_untimely right packet notFast notSwitched, handshake]
      exact ⟨rfl, alike⟩

/-- Where the services rule alike on the login that is settled, nothing that can be
observed tells the runs apart. -/
theorem observe_alike
    (ids : ConnectionIds)
    (serverVersion host : String)
    (backend : Backend)
    (plugins : ∀ source, (left source).policy.plugin = (right source).policy.plugin)
    (calls : List (Call Source))
    (rulings : RuleAlike left right (.fresh ids serverVersion host backend) calls) :
    let start := Exchange.fresh ids serverVersion host backend
    observe left start calls = observe right start calls ∧
      (run left start calls).outward = (run right start calls).outward := by
  intro start
  induction calls using List.reverseRecOn with
  | nil => exact ⟨rfl, rfl⟩
  | append_singleton earlier call ih =>
      obtain ⟨observed, alike⟩ := ih rulings.of_append
      have came := progress_run left ids serverVersion host backend earlier
      have turn := turn_perform left came.1 call
      obtain ⟨answer, after⟩ := perform_alike rfl plugins rulings came.2 turn alike
      constructor
      · rw [observe_append, observe_append, observed]
        have last : observeCall left (run left start earlier) call =
            observeCall right (run right start earlier) call := Prod.ext answer after
        rw [last]
      · rw [run_append, run_append]
        exact after

end Alike

end Handshake

end SqlGate
