import SqlGate.Command
import SqlGate.Proofs.Handshake.Progress

/-!
# What refusals say

A refusal of a login names the user, the host and the database of the attempt that was judged.
Whether a password was used is told by the response that was judged: after a switch that is the
answer to it, whatever the login packet had brought. A command for a schema is refused in the
same words.
-/

namespace SqlGate

set_option autoImplicit false

/-! ## Words -/

/-- The message of a refusal, around values that stand in it as they are. -/
def ErrorCode.words
    (username host : String)
    (database : Option String)
    (response : Bytes) :
    ErrorCode → String
  | accessDenied =>
      "Access denied for user '" ++ username ++ "'@'" ++ host ++ "' (using password: "
        ++ (if response = [] then "NO" else "YES") ++ ")"
  | databaseDenied =>
      "Access denied for user '" ++ username ++ "'@'" ++ host ++ "' to database '"
        ++ database.getD "" ++ "'"
  | unknownDatabase => "Unknown database '" ++ database.getD "" ++ "'"
  | badHandshake => "Bad handshake"
  | unknownCommand => "Unknown command"
  | unsupportedAuthMode =>
      "Client does not support authentication protocol requested by server; "
        ++ "consider upgrading MySQL client"

def refusal (sequence : UInt8) (code : ErrorCode) (words : String) : Outbound where
  sequence := sequence + 1
  packet := .err { code := code.number, sqlState := code.sqlState, message := words }

namespace Handshake

theorem message_refusalValues (code : ErrorCode) (host : String) (attempt : LoginAttempt) :
    code.message (refusalValues host attempt code) =
      code.words attempt.username host attempt.database attempt.authResponse := by
  have used : attempt.usingPassword = if attempt.authResponse = [] then "NO" else "YES" := by
    simp only [LoginAttempt.usingPassword, List.isEmpty_iff]
  unfold ErrorCode.words
  cases code with
  | accessDenied =>
      simp only [ErrorCode.message, ErrorCode.template, Template.fill, refusalValues, used,
        String.append_assoc, String.append_empty]
  | databaseDenied =>
      simp only [ErrorCode.message, ErrorCode.template, Template.fill, refusalValues,
        String.append_assoc, String.append_empty]
  | unknownDatabase =>
      simp only [ErrorCode.message, ErrorCode.template, Template.fill, refusalValues,
        String.append_assoc, String.append_empty]
  | badHandshake => rfl
  | unknownCommand => rfl
  | unsupportedAuthMode => rfl

theorem refusal_eq (sequence : UInt8) (code : ErrorCode) (host : String) (attempt : LoginAttempt) :
    ⟨sequence + 1, .err (code.packet (refusalValues host attempt code))⟩ =
      refusal sequence code
        (code.words attempt.username host attempt.database attempt.authResponse) := by
  rw [refusal, ← message_refusalValues]
  rfl

/-! ## Logins -/

variable {Source : Type}

/-- The attempt that a packet has judged, by the response of the login packet or by the whole
answer to a switch request. -/
inductive Judges
    (services : Source → Services)
    (before : Exchange)
    (packet : Inbound Source) :
    LoginAttempt → Prop where
  | login
      (login : LoginPacket)
      (waits : before.handshake.phase = .fastPath)
      (decoded : LoginPacket.decode packet.payload = .ok login)
      (plugin : negotiated login (services packet.source).policy.plugin = true) :
      Judges services before packet (.ofPacket login)
  | answer
      (attempt : LoginAttempt)
      (waits : before.handshake.phase = .methodMismatch)
      (recorded : before.handshake.attempt = some attempt) :
      Judges services before packet { attempt with authResponse := packet.payload }

inductive Denies (services : Services) (asked : Credentials) : ErrorCode → Prop where
  | unknownSchema
      (name : String)
      (asks : asked.database = some name)
      (missing : services.resolve name = none) :
      Denies services asked .databaseDenied
  | policy
      (code : ErrorCode)
      (denied : services.policy.check asked = .error code) :
      Denies services asked code

inductive Refuses (services : Source → Services) (before : Exchange) :
    Call Source → ErrorCode → Outbound → Prop where
  | unreadable
      (packet : Inbound Source)
      (problem : WireError)
      (waits : before.handshake.phase = .fastPath)
      (broken : LoginPacket.decode packet.payload = .error problem) :
      Refuses services before packet.call .badHandshake
        (refusal packet.sequence .badHandshake "Bad handshake")
  | denied
      (packet : Inbound Source)
      (challenge : Challenge)
      (attempt : LoginAttempt)
      (code : ErrorCode)
      (put : before.handshake.challenge = some challenge)
      (judges : Judges services before packet attempt)
      (denies : Denies (services packet.source)
        (credentials before.handshake.host challenge attempt) code) :
      Refuses services before packet.call code
        (refusal packet.sequence code
          (code.words attempt.username before.handshake.host attempt.database
            attempt.authResponse))

theorem Outcome.phase_eq_rejected {outcome : Outcome} :
    outcome.phase = .rejected ↔ ∃ code, outcome = .rejected code := by
  cases outcome <;> simp [Outcome.phase]

theorem missing_of_requestedSchema
    {services : Services}
    {attempt : LoginAttempt}
    (missing : requestedSchema services attempt = none) :
    ∃ name, attempt.database = some name ∧ services.resolve name = none := by
  unfold requestedSchema at missing
  cases asks : attempt.database with
  | none =>
      rw [asks] at missing
      cases missing
  | some name =>
      rw [asks] at missing
      exact ⟨name, rfl, Option.map_eq_none_iff.mp missing⟩

theorem rejected_ruling
    {services : Services}
    {host : String}
    {challenge : Challenge}
    {attempt : LoginAttempt}
    {code : ErrorCode}
    (rejects : (ruling services host challenge attempt).outcome = .rejected code) :
    Denies services (credentials host challenge attempt) code ∧
      (ruling services host challenge attempt).packet =
        .err (code.packet (refusalValues host attempt code)) := by
  have ruled := ruled_ruling services host challenge attempt
  generalize ruling services host challenge attempt = verdict at ruled rejects ⊢
  cases ruled with
  | unknownSchema missing =>
      cases rejects
      obtain ⟨name, asks, missing⟩ := missing_of_requestedSchema missing
      exact ⟨.unknownSchema name asks missing, rfl⟩
  | refused schema code found denied =>
      cases rejects
      exact ⟨.policy _ denied, rfl⟩
  | admitted schema found passed => cases rejects

section Refusal

variable {services : Source → Services}
variable {before after : Exchange}
variable {call : Call Source}
variable {code : ErrorCode}

theorem refuses_of_turn
    {answer : Answer}
    (turn : Turn services before call answer after)
    (rejects : answer = .concluded (.rejected code)) :
    ∃ told, Refuses services before call code told ∧ after.sent = before.sent ++ [told] := by
  cases turn with
  | greeted scramble phase unput => cases rejects
  | greetedAlready scramble put phase => cases rejects
  | malformed packet challenge problem phase put broken =>
      cases rejects
      exact ⟨_, .unreadable packet problem phase broken, rfl⟩
  | judged packet challenge login phase put decoded plugin verdict made =>
      subst made
      obtain ⟨denies, sends⟩ := rejected_ruling (Answer.concluded.inj rejects)
      have judges : Judges services before packet (.ofPacket login) :=
        .login login phase decoded plugin
      refine ⟨_, .denied packet challenge _ code put judges denies, ?_⟩
      rw [← refusal_eq, ← sends]
      rfl
  | switched packet challenge login phase put decoded plugin => cases rejects
  | judgedAnew packet challenge attempt phase put recorded verdict made =>
      subst made
      obtain ⟨denies, sends⟩ := rejected_ruling (Answer.concluded.inj rejects)
      have judges : Judges services before packet { attempt with authResponse := packet.payload } :=
        .answer attempt phase recorded
      refine ⟨_, .denied packet challenge _ code put judges denies, ?_⟩
      rw [← refusal_eq, ← sends]
      rfl
  | untimely packet notFast notSwitched => cases rejects

theorem rejects_of_turn
    {answer : Answer}
    (turn : Turn services before call answer after)
    (pending : before.handshake.phase ≠ .rejected)
    (rejected : after.handshake.phase = .rejected) :
    ∃ code, answer = .concluded (.rejected code) := by
  cases turn with
  | greeted scramble phase unput => cases rejected
  | greetedAlready scramble put phase => exact absurd rejected pending
  | malformed packet challenge problem phase put broken => exact ⟨_, rfl⟩
  | judged packet challenge login phase put decoded plugin verdict made =>
      obtain ⟨code, outcome⟩ := Outcome.phase_eq_rejected.mp rejected
      exact ⟨code, congrArg Answer.concluded outcome⟩
  | switched packet challenge login phase put decoded plugin => cases rejected
  | judgedAnew packet challenge attempt phase put recorded verdict made =>
      obtain ⟨code, outcome⟩ := Outcome.phase_eq_rejected.mp rejected
      exact ⟨code, congrArg Answer.concluded outcome⟩
  | untimely packet notFast notSwitched => exact absurd rejected pending

/-- One call ends a handshake in a rejection, and what it sends stays the last packet. -/
theorem refusal_of_run
    (services : Source → Services)
    {start : Exchange}
    {calls : List (Call Source)}
    (pending : start.handshake.phase ≠ .rejected)
    (rejected : (run services start calls).handshake.phase = .rejected) :
    ∃ earlier call later code told,
      calls = earlier ++ call :: later ∧
        (perform services (run services start earlier) call).1 = .concluded (.rejected code) ∧
        Refuses services (run services start earlier) call code told ∧
        (run services start calls).sent = (run services start earlier).sent ++ [told] := by
  induction calls generalizing start with
  | nil => exact absurd rejected pending
  | cons call later ih =>
      let after := (perform services start call).2
      -- Either this call ends the handshake, and no later one does anything, or a later one does.
      by_cases here : after.handshake.phase = .rejected
      · rcases turn_or_refusal services start call with turn | ⟨violation, refused⟩
        · obtain ⟨code, rejects⟩ := rejects_of_turn turn pending here
          obtain ⟨told, refuses, sent⟩ := refuses_of_turn turn rejects
          have ended : after.handshake.phase.isTerminal = true := by
            rw [here]
            rfl
          have stays : run services start (call :: later) = after := run_ended services ended later
          refine ⟨[], call, later, code, told, rfl, rejects, refuses, ?_⟩
          rw [stays]
          exact sent
        · have unchanged : after = start := congrArg Prod.snd refused
          rw [unchanged] at here
          exact absurd here pending
      · obtain ⟨earlier, last, rest, code, told, rfl, ends⟩ := ih here rejected
        exact ⟨call :: earlier, last, rest, code, told, rfl, ends⟩

end Refusal

/-- What a packet has judged in a new connection is the attempt of its first login packet, by the
response that decides the login. -/
theorem decides_of_judges
    {services : Source → Services}
    {start before : Exchange}
    {opening : Option (Scramble × List (Inbound Source))}
    {packet : Inbound Source}
    {attempt : LoginAttempt}
    (initial : start.handshake.phase = .initial)
    (progress : Progress services start opening before)
    (judges : Judges services before packet attempt) :
    ∃ scramble earlier login response,
      opening = some (scramble, earlier) ∧
        Decides services earlier packet login response ∧
        attempt = login.attempt response := by
  cases judges with
  | login login waits decoded plugin =>
      obtain ⟨scramble, opened, _⟩ := progress.of_fastPath initial waits
      exact ⟨scramble, [], login, _, opened, .atOnce packet login decoded plugin, rfl⟩
  | answer recorded waits made =>
      obtain ⟨scramble, first, login, opened, decoded, plugin, rfl⟩ :=
        progress.of_methodMismatch initial waits
      cases made
      exact ⟨scramble, [first], login, _, opened, .afterSwitch first packet login decoded plugin,
        rfl⟩

theorem Progress.host_eq
    {services : Source → Services}
    {start before : Exchange}
    {opening : Option (Scramble × List (Inbound Source))}
    (progress : Progress services start opening before) :
    before.handshake.host = start.handshake.host := by
  cases progress with
  | ungreeted => rfl
  | awaitsLogin scramble => rfl
  | awaitsResponse scramble first login decoded plugin => rfl
  | malformed scramble first later problem broken => rfl
  | judged scramble packet later login decoded plugin verdict made => rfl
  | judgedAnew scramble first packet later login decoded plugin verdict made => rfl

end Handshake

/-! ## Commands -/

theorem Command.reply_selectSchema
    (services : Services)
    (host : String)
    (sequence : UInt8)
    (body : Bytes)
    (backend : Backend) :
    let name := Utf8.decodeLossy body
    let username := backend.username.getD ""
    let told := fun code : ErrorCode =>
      refusal sequence code (code.words username host (some name) [])
    (respond services host sequence (0x02 :: body) backend).reply =
      if services.policy.permits username name = false then some (told .databaseDenied)
      else if services.resolve name = none then some (told .unknownDatabase)
      else some ⟨sequence + 1, .ok {}⟩ := by
  intro name username told
  have selects : ofPayload (0x02 :: body) = .selectSchema name := rfl
  -- The command is refused like a login for the schema, which no response comes with.
  let attempt : LoginAttempt := { username, database := some name }
  have worded (code : ErrorCode) : told code =
      ⟨sequence + 1, .err (code.packet (Handshake.refusalValues host attempt code))⟩ :=
    (Handshake.refusal_eq sequence code host attempt).symm
  simp only [respond, selects, selectSchemaFor, worded]
  cases permitted : services.policy.permits username name with
  | false =>
      rw [if_pos rfl, if_neg Bool.false_ne_true]
      rfl
  | true =>
      rw [if_neg (nofun : true ≠ false), if_pos rfl]
      cases found : services.resolve name with
      | none =>
          rw [if_pos rfl]
          rfl
      | some schema =>
          rw [if_neg (Option.some_ne_none schema)]
          rfl

namespace Handshake

/-- A connection that ends in a rejection was told so last, with the number and the state of the
error and in words that hold the user, the host and the database of the login as they are, and
whether the response that was judged is empty. Commands for a schema are refused in the same
words. -/
theorem refusals_report_the_attempt {Source : Type} (services : Source → Services) :
    (∀ start calls,
      start.handshake.phase ≠ .rejected →
      (run services start calls).handshake.phase = .rejected →
        ∃ earlier call later code told,
          calls = earlier ++ call :: later ∧
          (perform services (run services start earlier) call).1 = .concluded (.rejected code) ∧
          Refuses services (run services start earlier) call code told ∧
          (run services start calls).sent = (run services start earlier).sent ++ [told]) ∧
    (∀ ids serverVersion host backend calls,
      let before := run services (.fresh ids serverVersion host backend) calls
      before.handshake.host = host ∧
        ∀ packet attempt, Judges services before packet attempt →
          ∃ scramble earlier login response,
            opening? calls = some (scramble, earlier) ∧
            Decides services earlier packet login response ∧
            attempt = login.attempt response) ∧
    ∀ source host sequence body backend,
      let name := Utf8.decodeLossy body
      let username := backend.username.getD ""
      let told := fun code : ErrorCode =>
        refusal sequence code (code.words username host (some name) [])
      (Command.respond (services source) host sequence (0x02 :: body) backend).reply =
        if (services source).policy.permits username name = false then some (told .databaseDenied)
        else if (services source).resolve name = none then some (told .unknownDatabase)
        else some ⟨sequence + 1, .ok {}⟩ := by
  refine ⟨fun start calls => refusal_of_run services, ?_, ?_⟩
  · intro ids serverVersion host backend calls before
    obtain ⟨_, progress⟩ := progress_run services ids serverVersion host backend calls
    exact ⟨progress.host_eq, fun packet attempt => decides_of_judges rfl progress⟩
  · intro source
    exact Command.reply_selectSchema (services source)

/-- A user whose name looks like a slot, and who proves it to another plugin. -/
def slotLogin : LoginPacket where
  capabilities := .serverDefault
  username := "%s"
  authResponse := [0x01]
  plugin := some "caching_sha2_password"

example :
    let services := Services.ofRegistries {} {}
    let start := Exchange.fresh {} defaultServerVersion "%s" {}
    let calls := [Call.greet (FixedBytes.zero 20), .receive () 1 slotLogin.encode, .receive () 3 []]
    (run (fun _ => services) start calls).sent.getLast? =
      some (refusal 3 .accessDenied "Access denied for user '%s'@'%s' (using password: NO)") := by
  decide +kernel

end Handshake

end SqlGate
