import SqlGate.Proofs.Handshake.Calls

/-!
# What the steps of a handshake do

The steps of a handshake as functions on exchanges. `run_judge` gathers all ends
of a login in one `Ruling`: what the services make of an attempt, whichever
packet it came with. `run_greet`, `run_receiveLogin` and `run_receiveSwitched`
say what the other steps do where the phase admits them.
-/

namespace SqlGate

set_option autoImplicit false

namespace Handshake

def Outcome.phase : Outcome → Phase
  | switchRequested => .methodMismatch
  | authenticated => .authenticated
  | rejected _ => .rejected

structure Ruling where
  outcome : Outcome
  packet : ServerPacket
  asked : List Credentials := []
  backend : Option Backend := none

def Ruling.refusal (code : ErrorCode) (values : List String) (asked : List Credentials) :
    Ruling where
  outcome := .rejected code
  packet := .err (code.packet values)
  asked := asked

def credentials (host : String) (challenge : Challenge) (attempt : LoginAttempt) :
    Credentials where
  username := attempt.username
  host := host
  authResponse := attempt.authResponse
  database := attempt.database
  scramble := challenge.scramble.toList

def ruling
    (services : Services)
    (host : String)
    (challenge : Challenge)
    (attempt : LoginAttempt) :
    Ruling :=
  match requestedSchema services attempt with
  | none => .refusal .databaseDenied (refusalValues host attempt .databaseDenied) []
  | some schema =>
      let asked := credentials host challenge attempt
      match services.policy.check asked with
      | .error code => .refusal code (refusalValues host attempt code) [asked]
      | .ok () =>
          { outcome := .authenticated
            packet := .ok {}
            asked := [asked]
            backend := some
              { connectionId := challenge.connectionId
                username := some attempt.username
                schema } }

def Ruling.malformed : Ruling := .refusal .badHandshake [] []

inductive Ruled
    (services : Services)
    (host : String)
    (challenge : Challenge)
    (attempt : LoginAttempt) :
    Ruling → Prop where
  | unknownSchema (missing : requestedSchema services attempt = none) :
      Ruled services host challenge attempt
        (.refusal .databaseDenied (refusalValues host attempt .databaseDenied) [])
  | refused
      (schema : Option Schema)
      (code : ErrorCode)
      (found : requestedSchema services attempt = some schema)
      (denied : services.policy.check (credentials host challenge attempt) = .error code) :
      Ruled services host challenge attempt
        (.refusal code (refusalValues host attempt code) [credentials host challenge attempt])
  | admitted
      (schema : Option Schema)
      (found : requestedSchema services attempt = some schema)
      (passed : services.policy.check (credentials host challenge attempt) = .ok ()) :
      Ruled services host challenge attempt
        { outcome := .authenticated
          packet := .ok {}
          asked := [credentials host challenge attempt]
          backend := some
            { connectionId := challenge.connectionId
              username := some attempt.username
              schema } }

theorem ruled_ruling
    (services : Services)
    (host : String)
    (challenge : Challenge)
    (attempt : LoginAttempt) :
    Ruled services host challenge attempt (ruling services host challenge attempt) := by
  unfold ruling
  cases found : requestedSchema services attempt with
  | none => exact .unknownSchema found
  | some schema =>
      dsimp only
      split
      · rename_i code denied
        exact .refused schema code found denied
      · rename_i passed
        exact .admitted schema found passed

theorem ruling_isTerminal
    (services : Services)
    (host : String)
    (challenge : Challenge)
    (attempt : LoginAttempt) :
    (ruling services host challenge attempt).outcome.isTerminal = true := by
  have ruled := ruled_ruling services host challenge attempt
  generalize ruling services host challenge attempt = verdict at ruled ⊢
  cases ruled with
  | unknownSchema missing => rfl
  | refused schema code found denied => rfl
  | admitted schema found passed => rfl

def Outcome.ofCheck : Except ErrorCode Unit → Outcome
  | .error code => .rejected code
  | .ok () => .authenticated

/-- Where the schema exists, the policy alone decides. -/
theorem outcome_ruling_of_check
    (services : Services)
    (host : String)
    (challenge : Challenge)
    (attempt : LoginAttempt)
    (found : (requestedSchema services attempt).isNone = false) :
    (ruling services host challenge attempt).outcome =
      .ofCheck (services.policy.check (credentials host challenge attempt)) := by
  have ruled := ruled_ruling services host challenge attempt
  generalize ruling services host challenge attempt = verdict at ruled ⊢
  cases ruled with
  | unknownSchema missing =>
      rw [missing] at found
      cases found
  | refused schema code found denied =>
      rw [denied]
      rfl
  | admitted schema found passed =>
      rw [passed]
      rfl

/-- The schema that a backend is given is the one that the name stands for. -/
theorem eq_bind_of_requestedSchema
    {services : Services}
    {attempt : LoginAttempt}
    {schema : Option Schema}
    (found : requestedSchema services attempt = some schema) :
    schema = attempt.database.bind services.resolve := by
  unfold requestedSchema at found
  cases asks : attempt.database with
  | none =>
      rw [asks] at found
      exact (Option.some.inj found).symm
  | some name =>
      rw [asks] at found
      obtain ⟨known, resolved, rfl⟩ := Option.map_eq_some_iff.mp found
      exact resolved.symm

/-- Whoever is admitted is told OK and gets the backend of the attempt. -/
theorem ruling_of_authenticated
    {services : Services}
    {host : String}
    {challenge : Challenge}
    {attempt : LoginAttempt}
    (admitted : (ruling services host challenge attempt).outcome = .authenticated) :
    ruling services host challenge attempt =
      { outcome := .authenticated
        packet := .ok {}
        asked := [credentials host challenge attempt]
        backend := some
          { connectionId := challenge.connectionId
            username := some attempt.username
            schema := attempt.database.bind services.resolve } } := by
  have ruled := ruled_ruling services host challenge attempt
  generalize ruling services host challenge attempt = verdict at ruled admitted ⊢
  cases ruled with
  | unknownSchema missing => cases admitted
  | refused schema code found denied => cases admitted
  | admitted schema found passed => rw [eq_bind_of_requestedSchema found]

theorem challenge_record
    {handshake : Handshake}
    {challenge : Challenge}
    (put : handshake.challenge = some challenge)
    (login : LoginPacket) :
    (record handshake login).challenge =
      some { challenge with capabilities := login.capabilities } := by
  rw [record, put]
  rfl

end Handshake

namespace Exchange

open Handshake

def greeted (exchange : Exchange) (scramble : Scramble) : Exchange :=
  let (connectionId, ids) := exchange.ids.draw
  let (outbound, replies) :=
    exchange.handshake.replies.greeting connectionId scramble .serverDefault
  { exchange with
    ids
    handshake :=
      { exchange.handshake with
        replies
        phase := .fastPath
        challenge := some { connectionId, scramble } }
    backend := { exchange.backend with connectionId }
    sent := exchange.sent ++ [outbound] }

def answering (exchange : Exchange) (sequence : UInt8) : Exchange :=
  { exchange with
    handshake :=
      { exchange.handshake with replies := exchange.handshake.replies.replyTo sequence } }

def recorded (exchange : Exchange) (login : LoginPacket) : Exchange :=
  { exchange with handshake := record exchange.handshake login }

def responded (exchange : Exchange) (attempt : LoginAttempt) (response : Bytes) : Exchange :=
  { exchange with
    handshake :=
      { exchange.handshake with
        attempt := some { attempt with authResponse := response }
        authResponse := response } }

def consulted (exchange : Exchange) (asked : Credentials) : Exchange :=
  { exchange with asked := exchange.asked ++ [asked] }

def replied (exchange : Exchange) (packet : ServerPacket) (phase : Phase) : Exchange :=
  { exchange with
    handshake :=
      { exchange.handshake with
        phase
        replies := (exchange.handshake.replies.emit packet).2 }
    sent := exchange.sent ++ [(exchange.handshake.replies.emit packet).1] }

def switched (exchange : Exchange) (plugin : String) (scramble : Scramble) : Exchange :=
  exchange.replied (.switchRequest { plugin, data := scramble.toList }) .methodMismatch

def ruled (exchange : Exchange) (ruling : Ruling) : Exchange :=
  { exchange.replied ruling.packet ruling.outcome.phase with
    backend := ruling.backend.getD exchange.backend
    asked := exchange.asked ++ ruling.asked }

theorem ruled_consulted
    (exchange : Exchange)
    (asked : Credentials)
    (code : ErrorCode)
    (values : List String) :
    (exchange.consulted asked).ruled (.refusal code values []) =
      exchange.ruled (.refusal code values [asked]) := by
  simp only [ruled, consulted, Ruling.refusal, List.append_nil]
  rfl

end Exchange

namespace Handshake

theorem run_enter
    (exchange : Exchange)
    {next : Phase}
    (legal : exchange.handshake.phase.mayBecome next = true) :
    (enter next).run exchange =
      .ok () { exchange with handshake := { exchange.handshake with phase := next } } := by
  simp [enter, Phase.transition, legal]

theorem run_consult
    (policy : LoginPolicy)
    (asked : Credentials)
    (exchange : Exchange) :
    (consult policy asked).run exchange =
      .ok (policy.check asked) (exchange.consulted asked) := rfl

theorem run_reject
    (exchange : Exchange)
    (code : ErrorCode)
    (values : List String)
    (legal : exchange.handshake.phase.mayBecome .rejected = true) :
    (reject code values).run exchange =
      .ok (.rejected code) (exchange.ruled (.refusal code values [])) := by
  rw [reject, EStateM.run_bind, run_enter exchange legal, Exchange.ruled]
  simp only [Ruling.refusal, List.append_nil, Option.getD_none]
  rfl

/-- Whatever stands in the attempt is judged by `ruling`, from either phase in
which an attempt may be judged. -/
theorem run_judge
    (services : Services)
    (exchange : Exchange)
    {challenge : Challenge}
    {attempt : LoginAttempt}
    (put : exchange.handshake.challenge = some challenge)
    (made : exchange.handshake.attempt = some attempt)
    (mayReject : exchange.handshake.phase.mayBecome .rejected = true)
    (mayAdmit : exchange.handshake.phase.mayBecome .authenticated = true) :
    (judge services).run exchange =
      .ok (ruling services exchange.handshake.host challenge attempt).outcome
        (exchange.ruled (ruling services exchange.handshake.host challenge attempt)) := by
  rw [judge, EStateM.run_bind, EStateM.run_get]
  simp only [put, made]
  cases requested : requestedSchema services attempt with
  | none =>
      simp only [ruling, requested]
      exact run_reject exchange _ _ mayReject
  | some schema =>
      cases verdict :
        services.policy.check (credentials exchange.handshake.host challenge attempt) with
      | error code =>
          simp only [ruling, requested, verdict]
          unfold credentials at verdict ⊢
          simp only [EStateM.run_bind, run_consult, verdict]
          rw [← Exchange.ruled_consulted]
          exact run_reject (exchange.consulted _) _ _ mayReject
      | ok admitted =>
          simp only [ruling, requested, verdict]
          unfold credentials at verdict ⊢
          simp only [EStateM.run_bind, run_consult, verdict]
          rw [run_enter (exchange.consulted _) mayAdmit]
          rfl

theorem run_greet
    (exchange : Exchange)
    (scramble : Scramble)
    (phase : exchange.handshake.phase = .initial)
    (unput : exchange.handshake.challenge = none) :
    (greet scramble).run exchange =
      .ok exchange.ids.draw.1 (exchange.greeted scramble) := by
  have legal : exchange.handshake.phase.mayBecome .fastPath = true := by
    rw [phase]
    rfl
  simp only [greet, EStateM.run_bind, EStateM.run_get, unput, Option.isSome_none,
    Bool.false_eq_true, if_false, EStateM.run_pure, run_enter exchange legal]
  rfl

theorem run_greet_again
    (exchange : Exchange)
    (scramble : Scramble)
    (put : exchange.handshake.challenge.isSome = true) :
    (greet scramble).run exchange = .error .alreadyGreeted exchange := by
  simp only [greet, EStateM.run_bind, EStateM.run_get, put, if_true]
  rfl

theorem run_greet_untimely
    (exchange : Exchange)
    (scramble : Scramble)
    (phase : exchange.handshake.phase ≠ .initial)
    (unput : exchange.handshake.challenge = none) :
    (greet scramble).run exchange =
      .error (.illegalTransition exchange.handshake.phase .fastPath) exchange := by
  have illegal : exchange.handshake.phase.mayBecome .fastPath = false := by
    generalize exchange.handshake.phase = current at phase ⊢
    cases current <;> first | rfl | exact absurd rfl phase
  simp only [greet, EStateM.run_bind, EStateM.run_get, unput, Option.isSome_none,
    Bool.false_eq_true, if_false, EStateM.run_pure, enter, Phase.transition, illegal]
  rfl

theorem run_receiveLogin
    (services : Services)
    (exchange : Exchange)
    {challenge : Challenge}
    {payload : Bytes}
    {login : LoginPacket}
    (phase : exchange.handshake.phase = .fastPath)
    (put : exchange.handshake.challenge = some challenge)
    (decoded : LoginPacket.decode payload = .ok login) :
    (receiveLogin services payload).run exchange =
      if negotiated login services.policy.plugin then
        .ok (ruling services exchange.handshake.host challenge (.ofPacket login)).outcome
          ((exchange.recorded login).ruled
            (ruling services exchange.handshake.host challenge (.ofPacket login)))
      else
        .ok .switchRequested
          ((exchange.recorded login).switched services.policy.plugin challenge.scramble) := by
  rcases exchange with
    ⟨ids, ⟨replies, host, current, challenge?, attempt, response⟩, backend, sent, asked⟩
  dsimp only at phase put
  subst phase put
  let before : Exchange :=
    ⟨ids, ⟨replies, host, .fastPath, some challenge, attempt, response⟩, backend, sent, asked⟩
  have judged := run_judge services (before.recorded login) rfl rfl rfl rfl
  simp only [receiveLogin, decoded, EStateM.run_bind, modifyHandshake, EStateM.run_modify]
  split
  · exact judged
  · rfl

theorem run_receiveLogin_malformed
    (services : Services)
    (exchange : Exchange)
    {payload : Bytes}
    {problem : WireError}
    (phase : exchange.handshake.phase = .fastPath)
    (broken : LoginPacket.decode payload = .error problem) :
    (receiveLogin services payload).run exchange =
      .ok (.rejected .badHandshake) (exchange.ruled .malformed) := by
  simp only [receiveLogin, broken]
  exact run_reject exchange _ _ (by rw [phase]; rfl)

theorem run_receiveSwitched
    (services : Services)
    (exchange : Exchange)
    {challenge : Challenge}
    {attempt : LoginAttempt}
    (payload : Bytes)
    (phase : exchange.handshake.phase = .methodMismatch)
    (put : exchange.handshake.challenge = some challenge)
    (made : exchange.handshake.attempt = some attempt) :
    (receiveSwitched services payload).run exchange =
      .ok (ruling services exchange.handshake.host challenge
          { attempt with authResponse := payload }).outcome
        ((exchange.responded attempt payload).ruled
          (ruling services exchange.handshake.host challenge
            { attempt with authResponse := payload })) := by
  rcases exchange with
    ⟨ids, ⟨replies, host, current, challenge?, attempt?, response⟩, backend, sent, asked⟩
  dsimp only at phase put made
  subst phase put made
  -- The answer to a switch request is judged from a phase of its own.
  let answered : Handshake :=
    ⟨replies, host, .switchResponseReceived, some challenge,
      some { attempt with authResponse := payload }, payload⟩
  exact run_judge services ⟨ids, answered, backend, sent, asked⟩ rfl rfl rfl rfl

theorem run_receive_fastPath
    (services : Services)
    (exchange : Exchange)
    (sequence : UInt8)
    (payload : Bytes)
    (phase : exchange.handshake.phase = .fastPath)
    (put : exchange.handshake.challenge.isSome = true) :
    (receive services sequence payload).run exchange =
      (receiveLogin services payload).run (exchange.answering sequence) := by
  obtain ⟨challenge, found⟩ := Option.isSome_iff_exists.mp put
  simp only [receive, EStateM.run_bind, EStateM.run_get, phase, found]
  rfl

theorem run_receive_methodMismatch
    (services : Services)
    (exchange : Exchange)
    (sequence : UInt8)
    (payload : Bytes)
    (phase : exchange.handshake.phase = .methodMismatch)
    (put : exchange.handshake.challenge.isSome = true)
    (made : exchange.handshake.attempt.isSome = true) :
    (receive services sequence payload).run exchange =
      (receiveSwitched services payload).run (exchange.answering sequence) := by
  obtain ⟨challenge, found⟩ := Option.isSome_iff_exists.mp put
  obtain ⟨attempt, recorded⟩ := Option.isSome_iff_exists.mp made
  simp only [receive, EStateM.run_bind, EStateM.run_get, phase, found, recorded]
  rfl

theorem run_receive_unawaited
    (services : Services)
    (exchange : Exchange)
    (sequence : UInt8)
    (payload : Bytes)
    (noLogin : exchange.handshake.phase = .fastPath → exchange.handshake.challenge = none)
    (noSwitch : exchange.handshake.phase = .methodMismatch →
      exchange.handshake.challenge = none ∨ exchange.handshake.attempt = none) :
    (receive services sequence payload).run exchange =
      .error (.unexpectedPacket exchange.handshake.phase) exchange := by
  rw [receive, EStateM.run_bind, EStateM.run_get]
  dsimp only
  split
  · simp_all
  · simp_all
  · rfl

theorem run_receive_untimely
    (services : Services)
    (exchange : Exchange)
    (sequence : UInt8)
    (payload : Bytes)
    (notFast : exchange.handshake.phase ≠ .fastPath)
    (notSwitched : exchange.handshake.phase ≠ .methodMismatch) :
    (receive services sequence payload).run exchange =
      .error (.unexpectedPacket exchange.handshake.phase) exchange :=
  run_receive_unawaited services exchange sequence payload
    (fun fast => absurd fast notFast) (fun switched => absurd switched notSwitched)

end Handshake

end SqlGate
