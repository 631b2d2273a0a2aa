import SqlGate.Proofs.Handshake.Progress
import SqlGate.Proofs.Packet.Login
import SqlGate.Proofs.Registry

/-!
# What the backend knows of a login

The backend mirrors the handshake. It has the number of the connection from the greeting
on, and the user and the schema of the attempt just if the client was admitted. What the
attempt says is text without NUL, since it was read from a packet.
-/

namespace SqlGate

set_option autoImplicit false

/-! ## Schemas under their own names -/

def SchemaSnapshot.Keyed (snapshot : SchemaSnapshot) : Prop :=
  ∀ name schema, snapshot.get? name = some schema → schema.name = name

theorem SchemaSnapshot.keyed_ofList (schemas : List Schema) : (ofList schemas).Keyed := by
  intro name schema found
  rw [get?_ofList] at found
  simpa using List.find?_some found

/-- What a connection may consult at one time: any policy, and a schema registry after any
reloads. -/
structure Supply where
  policy : LoginPolicy
  schemas : List Schema
  reloads : List (List Schema) := []

namespace Supply

def registry (supply : Supply) : SchemaRegistry :=
  supply.reloads.foldl (fun registry schemas => registry.reload (.ofList schemas))
    (.ofList supply.schemas)

def services (supply : Supply) : Services where
  policy := supply.policy
  resolve := supply.registry.resolve

theorem keyed_registry (supply : Supply) : supply.registry.current.Keyed := by
  unfold registry
  have initial : (SchemaRegistry.ofList supply.schemas).current.Keyed :=
    SchemaSnapshot.keyed_ofList supply.schemas
  generalize SchemaRegistry.ofList supply.schemas = known at initial
  induction supply.reloads generalizing known with
  | nil => exact initial
  | cons schemas rest ih => exact ih _ (SchemaSnapshot.keyed_ofList schemas)

end Supply

theorem Handshake.schemaName_of_requestedSchema
    (supply : Supply)
    {attempt : LoginAttempt}
    {schema : Option Schema}
    (found : requestedSchema supply.services attempt = some schema) :
    schema.map (·.name) = attempt.database := by
  unfold requestedSchema at found
  cases asks : attempt.database with
  | none =>
      rw [asks] at found
      cases found
      rfl
  | some name =>
      rw [asks] at found
      obtain ⟨known, resolved, rfl⟩ := Option.map_eq_some_iff.mp found
      exact congrArg some (supply.keyed_registry name known resolved)

theorem Handshake.connectionId_record (handshake : Handshake) (login : LoginPacket) :
    (record handshake login).connectionId = handshake.connectionId := Option.map_map ..

theorem Handshake.connectionId_of_challenge
    {handshake : Handshake}
    {challenge : Challenge}
    (put : handshake.challenge = some challenge) :
    handshake.connectionId = some challenge.connectionId := by
  rw [connectionId, put]
  rfl

/-! ## The mirror -/

structure LoginAttempt.Legible (attempt : LoginAttempt) : Prop where
  username : Utf8.ZeroFree attempt.username
  database : ∀ name ∈ attempt.database, name ≠ "" ∧ Utf8.ZeroFree name
  plugin : ∀ name ∈ attempt.plugin, Utf8.ZeroFree name

theorem LoginPacket.Legible.ofPacket {login : LoginPacket} (legible : login.Legible) :
    (LoginAttempt.ofPacket login).Legible :=
  ⟨legible.username, legible.database, legible.plugin⟩

namespace Exchange

open Handshake

/-- The backend has the number of the connection, and the login just if it was admitted. -/
structure Mirrored (exchange : Exchange) : Prop where
  number : exchange.backend.connectionId = exchange.handshake.connectionId.getD 0
  pending : exchange.handshake.phase ≠ .authenticated →
    exchange.backend.username = none ∧ exchange.backend.schema = none
  admitted : exchange.handshake.phase = .authenticated →
    ∃ attempt,
      exchange.handshake.attempt = some attempt ∧
        exchange.backend.username = some attempt.username ∧
        exchange.backend.schemaName = attempt.database
  legible : ∀ attempt, exchange.handshake.attempt = some attempt → attempt.Legible

theorem mirrored_fresh (ids : ConnectionIds) (serverVersion host : String) :
    (Exchange.fresh ids serverVersion host {}).Mirrored :=
  ⟨rfl, fun _ => ⟨rfl, rfl⟩, nofun, nofun⟩

section Mirrored

variable {exchange : Exchange}

theorem Mirrored.greeted
    (mirrored : exchange.Mirrored)
    (scramble : Scramble)
    (phase : exchange.handshake.phase = .initial) :
    (exchange.greeted scramble).Mirrored := by
  have unnamed := mirrored.pending (by rw [phase]; exact nofun)
  exact ⟨rfl, fun _ => unnamed, nofun, mirrored.legible⟩

theorem Mirrored.answering (mirrored : exchange.Mirrored) (sequence : UInt8) :
    (exchange.answering sequence).Mirrored :=
  ⟨mirrored.number, mirrored.pending, mirrored.admitted, mirrored.legible⟩

theorem Mirrored.recorded
    {login : LoginPacket}
    (mirrored : exchange.Mirrored)
    (waits : exchange.handshake.phase ≠ .authenticated)
    (legible : login.Legible) :
    (exchange.recorded login).Mirrored := by
  constructor
  · rw [Exchange.recorded, connectionId_record]
    exact mirrored.number
  · exact mirrored.pending
  · intro ended
    exact absurd ended waits
  · intro attempt made
    cases made
    exact legible.ofPacket

theorem Mirrored.responded
    {attempt : LoginAttempt}
    (mirrored : exchange.Mirrored)
    (waits : exchange.handshake.phase ≠ .authenticated)
    (recorded : exchange.handshake.attempt = some attempt)
    (response : Bytes) :
    (exchange.responded attempt response).Mirrored := by
  have legible := mirrored.legible attempt recorded
  constructor
  · exact mirrored.number
  · exact mirrored.pending
  · intro ended
    exact absurd ended waits
  · intro changed made
    cases made
    exact ⟨legible.username, legible.database, legible.plugin⟩

theorem Mirrored.replied
    {phase : Phase}
    (mirrored : exchange.Mirrored)
    (waits : exchange.handshake.phase ≠ .authenticated)
    (packet : ServerPacket)
    (goesOn : phase ≠ .authenticated) :
    (exchange.replied packet phase).Mirrored := by
  have unnamed := mirrored.pending waits
  constructor
  · exact mirrored.number
  · intro _
    exact unnamed
  · intro ended
    exact absurd ended goesOn
  · exact mirrored.legible

theorem Mirrored.refused
    (mirrored : exchange.Mirrored)
    (waits : exchange.handshake.phase ≠ .authenticated)
    (code : ErrorCode)
    (values : List String)
    (asked : List Credentials) :
    (exchange.ruled (.refusal code values asked)).Mirrored := by
  have replied : (exchange.replied (.err (code.packet values)) .rejected).Mirrored :=
    mirrored.replied waits _ nofun
  exact ⟨replied.number, replied.pending, replied.admitted, replied.legible⟩

theorem Mirrored.ruled
    {supply : Supply}
    {host : String}
    {challenge : Challenge}
    {attempt : LoginAttempt}
    {verdict : Ruling}
    (mirrored : exchange.Mirrored)
    (waits : exchange.handshake.phase ≠ .authenticated)
    (put : exchange.handshake.connectionId = some challenge.connectionId)
    (recorded : exchange.handshake.attempt = some attempt)
    (made : verdict = ruling supply.services host challenge attempt) :
    (exchange.ruled verdict).Mirrored := by
  have ruled := ruled_ruling supply.services host challenge attempt
  rw [← made] at ruled
  cases ruled with
  | unknownSchema missing => exact mirrored.refused waits _ _ _
  | refused schema code found denied => exact mirrored.refused waits _ _ _
  | admitted schema found passed =>
      constructor
      · change challenge.connectionId = exchange.handshake.connectionId.getD 0
        rw [put, Option.getD_some]
      · intro notAdmitted
        exact absurd rfl notAdmitted
      · intro _
        exact ⟨attempt, recorded, rfl, schemaName_of_requestedSchema supply found⟩
      · exact mirrored.legible

theorem Mirrored.isSome_username (mirrored : exchange.Mirrored) :
    exchange.backend.username.isSome = true ↔ exchange.handshake.phase = .authenticated := by
  by_cases ended : exchange.handshake.phase = .authenticated
  · obtain ⟨attempt, _, user, _⟩ := mirrored.admitted ended
    simp only [ended, user, Option.isSome_some]
  · simp only [ended, (mirrored.pending ended).1, Option.isSome_none, Bool.false_eq_true]

theorem Mirrored.isSome_schema (mirrored : exchange.Mirrored) :
    exchange.backend.schema.isSome = true ↔
      exchange.handshake.phase = .authenticated ∧
        ∃ attempt name,
          exchange.handshake.attempt = some attempt ∧ attempt.database = some name := by
  by_cases ended : exchange.handshake.phase = .authenticated
  · obtain ⟨attempt, made, _, schema⟩ := mirrored.admitted ended
    have isSome : exchange.backend.schema.isSome = attempt.database.isSome := by
      rw [← schema, Backend.schemaName, Option.isSome_map]
    rw [isSome, Option.isSome_iff_exists]
    constructor
    · rintro ⟨name, asks⟩
      exact ⟨ended, attempt, name, made, asks⟩
    · rintro ⟨_, asking, name, madeToo, asks⟩
      cases made.symm.trans madeToo
      exact ⟨name, asks⟩
  · simp only [ended, (mirrored.pending ended).2, Option.isSome_none, Bool.false_eq_true,
      false_and]

end Mirrored

end Exchange

namespace Handshake

theorem mirrored_turn
    {before after : Exchange}
    {call : Call Supply}
    {answer : Answer}
    (mirrored : before.Mirrored)
    (turn : Turn Supply.services before call answer after) :
    after.Mirrored := by
  have waits : ∀ phase : Phase, before.handshake.phase = phase → phase ≠ .authenticated →
      before.handshake.phase ≠ .authenticated := by
    intro phase same other
    rwa [same]
  cases turn with
  | greeted scramble phase unput => exact mirrored.greeted scramble phase
  | greetedAlready scramble put phase => exact mirrored
  | malformed packet challenge problem phase put broken =>
      exact (mirrored.answering packet.sequence).refused (waits .fastPath phase nofun) _ _ _
  | judged packet challenge login phase put decoded plugin verdict made =>
      have pending := waits .fastPath phase nofun
      have legible := (LoginPacket.decode_ensures decoded).1
      have recorded := (mirrored.answering packet.sequence).recorded pending legible
      have number := (connectionId_record before.handshake login).trans (connectionId_of_challenge put)
      exact recorded.ruled pending number rfl made
  | switched packet challenge login phase put decoded plugin =>
      have pending := waits .fastPath phase nofun
      have legible := (LoginPacket.decode_ensures decoded).1
      have recorded := (mirrored.answering packet.sequence).recorded pending legible
      exact recorded.replied pending _ nofun
  | judgedAnew packet challenge attempt phase put recorded verdict made =>
      have pending := waits .methodMismatch phase nofun
      have responded := (mirrored.answering packet.sequence).responded pending recorded
        packet.payload
      exact responded.ruled pending (connectionId_of_challenge put) rfl made
  | untimely packet notFast notSwitched => exact mirrored

theorem mirrored_run
    (ids : ConnectionIds)
    (serverVersion host : String)
    (calls : List (Call Supply)) :
    (run Supply.services (.fresh ids serverVersion host {}) calls).Mirrored := by
  suffices holds : Standing (run Supply.services (.fresh ids serverVersion host {}) calls).handshake ∧
      (run Supply.services (.fresh ids serverVersion host {}) calls).Mirrored from holds.2
  apply run_induction (fun _ exchange => exchange.Mirrored)
    (standing_fresh ids serverVersion host {}) (Exchange.mirrored_fresh ids serverVersion host)
  intro earlier before call answer after _ mirrored turn
  exact mirrored_turn mirrored turn

theorem Progress.connectionId
    {Source : Type}
    {services : Source → Services}
    {start before : Exchange}
    {opening : Option (Scramble × List (Inbound Source))}
    (unput : start.handshake.challenge = none)
    (progress : Progress services start opening before) :
    before.handshake.connectionId = opening.map fun _ => start.ids.draw.1 := by
  cases progress with
  | ungreeted =>
      rw [Handshake.connectionId, unput]
      rfl
  | awaitsLogin scramble => rfl
  | awaitsResponse scramble first login decoded plugin => rfl
  | malformed scramble first later problem broken => rfl
  | judged scramble packet later login decoded plugin verdict made => rfl
  | judgedAnew scramble first packet later login decoded plugin verdict made => rfl

/-- Whatever the calls, the policies and the reloads, the backend of a new connection has no
number before the greeting and its own ever after. It has a user and a schema just if the
client was admitted, and then those of the attempt, which are text without NUL. -/
theorem backend_mirrors_the_login
    (ids : ConnectionIds)
    (serverVersion host : String)
    (calls : List (Call Supply)) :
    let final := run Supply.services (.fresh ids serverVersion host {}) calls
    final.handshake.connectionId = (opening? calls).map (fun _ => ids.draw.1) ∧
    final.backend.connectionId = final.handshake.connectionId.getD 0 ∧
    (final.backend.username.isSome = true ↔ final.handshake.phase = .authenticated) ∧
    (final.backend.schema.isSome = true ↔
      final.handshake.phase = .authenticated ∧
        ∃ attempt name,
          final.handshake.attempt = some attempt ∧ attempt.database = some name) ∧
    (final.handshake.phase = .authenticated →
      ∃ attempt,
        final.handshake.attempt = some attempt ∧
          final.backend.username = some attempt.username ∧
          final.backend.schemaName = attempt.database) ∧
    ∀ attempt, final.handshake.attempt = some attempt →
      Utf8.ZeroFree attempt.username ∧
        (∀ name ∈ attempt.database, name ≠ "" ∧ Utf8.ZeroFree name) ∧
        ∀ name ∈ attempt.plugin, Utf8.ZeroFree name := by
  intro final
  have mirrored : final.Mirrored := mirrored_run ids serverVersion host calls
  have came := progress_run Supply.services ids serverVersion host {} calls
  refine ⟨came.2.connectionId rfl, mirrored.number, mirrored.isSome_username,
    mirrored.isSome_schema, mirrored.admitted, ?_⟩
  intro attempt made
  have legible := mirrored.legible attempt made
  exact ⟨legible.username, legible.database, legible.plugin⟩

end Handshake

end SqlGate
