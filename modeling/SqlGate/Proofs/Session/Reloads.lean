import SqlGate.Proofs.Handshake.Decision
import SqlGate.Proofs.Privacy.Schemas
import SqlGate.Proofs.Registry

/-!
# Commands between reloads

While a session serves commands, its registries may be reloaded at any time. A command goes
by the registries that it meets, and a user whom a reload left out selects nothing more until
another reload brings the name back.
-/

namespace SqlGate

set_option autoImplicit false

def Registries.Offers
    (registries : Registries)
    (username name : String)
    (schema : Schema) :
    Prop :=
  ∃ account,
    registries.users.get? username = some account ∧
      account.mayUse name = true ∧
      registries.schemas.resolve name = some schema

theorem Registries.offers_iff
    {registries : Registries}
    {username name : String}
    {schema : Schema} :
    registries.Offers username name schema ↔
      registries.users.permits username name = true ∧
        registries.schemas.resolve name = some schema := by
  rw [UserRegistry.permits_iff]
  constructor
  · rintro ⟨account, registered, granted, found⟩
    exact ⟨⟨account, registered, granted⟩, found⟩
  · rintro ⟨⟨account, registered, granted⟩, found⟩
    exact ⟨account, registered, granted, found⟩

namespace Command

def Response.isOk (response : Response) : Bool := response.reply.any (·.packet.isOk)

inductive Event where
  | command (sequence : UInt8) (payload : Bytes)
  | reloadUsers (accounts : List Account)
  | reloadSchemas (snapshot : SchemaSnapshot)

structure State where
  registries : Registries
  backend : Backend

/-! ## One command -/

structure Answered
    (registries : Registries)
    (username : String)
    (sequence : UInt8)
    (payload : Bytes)
    (before : Backend)
    (response : Response) :
    Prop where
  farewell : payload.head? = some 0x01 → response.action = .close ∧ response.reply = none
  other : payload.head? ≠ some 0x01 →
    response.action = .goOn ∧ ∃ packet, response.reply = some ⟨sequence + 1, packet⟩
  elsewhere : payload.head? ≠ some 0x02 → response.backend = before
  refused : response.isOk = false → response.backend = before
  accepted : ∀ body, payload = 0x02 :: body →
    (response.isOk = true ↔ ∃ schema, registries.Offers username (Utf8.decodeLossy body) schema)
  selected : ∀ body schema, payload = 0x02 :: body →
    registries.Offers username (Utf8.decodeLossy body) schema →
    response.backend = { before with schema := some schema }

section Answered

variable {registries : Registries}
variable {username : String}
variable {sequence : UInt8}
variable {payload : Bytes}
variable {before : Backend}

theorem Answered.farewells (leaves : payload.head? = some 0x01) :
    Answered registries username sequence payload before ⟨.close, none, before⟩ where
  farewell _ := ⟨rfl, rfl⟩
  other stays := absurd leaves stays
  elsewhere _ := rfl
  refused _ := rfl
  accepted body asks := by
    subst asks
    simp at leaves
  selected body schema asks := by
    subst asks
    simp at leaves

/-- A reply that leaves the backend as it was. To a selection it is a refusal. -/
theorem Answered.keeps
    {packet : ServerPacket}
    (stays : ofPayload payload ≠ .quit)
    (refuses : ∀ name, ofPayload payload = .selectSchema name →
      packet.isOk = false ∧ ∀ schema, ¬ registries.Offers username name schema) :
    Answered registries username sequence payload before
      ⟨.goOn, some ⟨sequence + 1, packet⟩, before⟩ where
  farewell leaves := absurd (ofPayload_quit_iff.mpr leaves) stays
  other _ := ⟨rfl, packet, rfl⟩
  elsewhere _ := rfl
  refused _ := rfl
  accepted body asks := by
    obtain ⟨error, unoffered⟩ := refuses _ (ofPayload_selectSchema_iff.mpr ⟨body, asks, rfl⟩)
    constructor
    · intro accepts
      rw [Response.isOk, Option.any_some, error] at accepts
      cases accepts
    · rintro ⟨schema, offered⟩
      exact absurd offered (unoffered schema)
  selected body schema asks offered := by
    obtain ⟨_, unoffered⟩ := refuses _ (ofPayload_selectSchema_iff.mpr ⟨body, asks, rfl⟩)
    exact absurd offered (unoffered schema)

theorem Answered.selects
    {body : Bytes}
    {schema : Schema}
    (offered : registries.Offers username (Utf8.decodeLossy body) schema) :
    Answered registries username sequence (0x02 :: body) before
      ⟨.goOn, some ⟨sequence + 1, .ok {}⟩, { before with schema := some schema }⟩ where
  farewell leaves := by simp at leaves
  other _ := ⟨rfl, .ok {}, rfl⟩
  elsewhere other := absurd rfl other
  refused fails := by cases fails
  accepted other asks := by
    cases asks
    exact ⟨fun _ => ⟨schema, offered⟩, fun _ => rfl⟩
  selected other found asks also := by
    cases asks
    obtain ⟨_, _, _, resolved⟩ := offered
    obtain ⟨_, _, _, again⟩ := also
    rw [Option.some.inj (resolved.symm.trans again)]

theorem answered_respond
    (registries : Registries)
    (host : String)
    (sequence : UInt8)
    (payload : Bytes)
    (backend : Backend) :
    Answered registries (backend.username.getD "") sequence payload backend
      (respond registries.services host sequence payload backend) := by
  have responds := responds_respond registries.services host backend sequence payload
  generalize respond registries.services host sequence payload backend = response at responds ⊢
  cases responds with
  | left asks => exact .farewells (ofPayload_quit_iff.mp asks)
  | alive asks =>
      apply Answered.keeps
      · simp [asks]
      · simp [asks]
  | unknown asks =>
      apply Answered.keeps
      · simp [asks]
      · simp [asks]
  | denied name asks ungranted =>
      apply Answered.keeps (by simp [asks])
      intro wanted same
      cases asks.symm.trans same
      refine ⟨rfl, ?_⟩
      intro schema offered
      have granted := (Registries.offers_iff.mp offered).1
      exact Bool.false_ne_true (ungranted.symm.trans granted)
  | missing name asks granted unresolved =>
      apply Answered.keeps (by simp [asks])
      intro wanted same
      cases asks.symm.trans same
      refine ⟨rfl, ?_⟩
      intro schema offered
      have found := (Registries.offers_iff.mp offered).2
      cases unresolved.symm.trans found
  | selected name schema asks granted found =>
      obtain ⟨body, rfl, rfl⟩ := ofPayload_selectSchema_iff.mp asks
      exact .selects (Registries.offers_iff.mpr ⟨granted, found⟩)

end Answered

/-! ## Runs -/

namespace State

def respond (state : State) (host : String) (sequence : UInt8) (payload : Bytes) : Response :=
  Command.respond state.registries.services host sequence payload state.backend

def after (host : String) (state : State) : Event → State
  | .command sequence payload =>
      { state with backend := (state.respond host sequence payload).backend }
  | .reloadUsers accounts =>
      { state with registries := { state.registries with users := .ofList accounts } }
  | .reloadSchemas snapshot =>
      { state with
        registries :=
          { state.registries with schemas := state.registries.schemas.reload snapshot } }

def run (host : String) (state : State) (events : List Event) : State :=
  events.foldl (after host) state

def Meets
    (host : String)
    (start : State)
    (events : List Event)
    (before : State)
    (event : Event) :
    Prop :=
  ∃ earlier later, events = earlier ++ event :: later ∧ before = run host start earlier

def selection? (host : String) (state : State) : Event → Option Schema
  | .command sequence payload =>
      let response := state.respond host sequence payload
      if payload.head? = some 0x02 ∧ response.isOk = true then response.backend.schema else none
  | _ => none

def selections (host : String) : State → List Event → List Schema
  | _, [] => []
  | state, event :: later =>
      (state.selection? host event).toList ++ selections host (state.after host event) later

def Unlisted (username : String) (events : List Event) : Prop :=
  ∀ accounts, .reloadUsers accounts ∈ events → ∀ account ∈ accounts, account.username ≠ username

section Run

variable (host : String)

theorem answered (state : State) (sequence : UInt8) (payload : Bytes) :
    Answered state.registries (state.backend.username.getD "") sequence payload state.backend
      (state.respond host sequence payload) :=
  answered_respond state.registries host sequence payload state.backend

theorem isOk_of_unregistered
    {state : State}
    (gone : state.registries.users.get? (state.backend.username.getD "") = none)
    (sequence : UInt8)
    (body : Bytes) :
    (state.respond host sequence (0x02 :: body)).isOk = false := by
  apply eq_false_of_ne_true
  intro accepts
  obtain ⟨schema, account, registered, _⟩ :=
    ((state.answered host sequence (0x02 :: body)).accepted body rfl).mp accepts
  cases gone.symm.trans registered

theorem backend_after (state : State) (event : Event) :
    (state.after host event).backend =
      { state.backend with schema := (state.selection? host event).or state.backend.schema } := by
  cases event with
  | reloadUsers accounts => rfl
  | reloadSchemas snapshot => rfl
  | command sequence payload =>
      have answered := state.answered host sequence payload
      change (state.respond host sequence payload).backend = _
      dsimp only [selection?]
      split_ifs with selects
      · obtain ⟨asks, accepts⟩ := selects
        obtain ⟨body, rfl⟩ := List.head?_eq_some_iff.mp asks
        obtain ⟨schema, offered⟩ := (answered.accepted body rfl).mp accepts
        rw [answered.selected body schema rfl offered, Option.some_or]
      · rw [Option.none_or]
        by_cases asks : payload.head? = some 0x02
        · exact answered.refused (eq_false_of_ne_true fun accepts => selects ⟨asks, accepts⟩)
        · exact answered.elsewhere asks

/-- The user and the number of a session stay, and its schema is the last that was selected. -/
theorem backend_run (state : State) (events : List Event) :
    (run host state events).backend =
      { state.backend with
        schema := (selections host state events).getLast?.or state.backend.schema } := by
  induction events generalizing state with
  | nil => rfl
  | cons event later ih =>
      change (run host (state.after host event) later).backend = _
      rw [ih, backend_after, selections, List.getLast?_append, Option.or_assoc]
      cases state.selection? host event with
      | none => rfl
      | some schema => rfl

theorem username_run (state : State) (events : List Event) :
    (run host state events).backend.username = state.backend.username := by
  rw [backend_run]

theorem users_run_of_unlisted
    {state : State}
    {events : List Event}
    {username : String}
    (gone : state.registries.users.get? username = none)
    (unlisted : Unlisted username events) :
    (run host state events).registries.users.get? username = none := by
  induction events generalizing state with
  | nil => exact gone
  | cons event later ih =>
      have rest : Unlisted username later := by
        intro accounts reloaded
        exact unlisted accounts (List.mem_cons_of_mem event reloaded)
      refine ih ?_ rest
      cases event with
      | command sequence payload => exact gone
      | reloadSchemas snapshot => exact gone
      | reloadUsers accounts =>
          exact UserRegistry.get?_ofList_eq_none (unlisted accounts List.mem_cons_self)

end Run

/-- However commands and reloads come one after another, each command is answered by the
registries that it meets, and changes no more than the schema. That is the one last selected.
A session whose backend records no user counts as that of the user without a name. Once a
reload leaves the user out, nothing is selected until a reload lists that name again. -/
theorem commands_follow_the_registries (host : String) (start : State) (events : List Event) :
    let username := start.backend.username.getD ""
    (∀ before sequence payload, Meets host start events before (.command sequence payload) →
      Answered before.registries username sequence payload before.backend
        (before.respond host sequence payload)) ∧
    (run host start events).backend =
      { start.backend with
        schema := (selections host start events).getLast?.or start.backend.schema } ∧
    ∀ earlier accounts later, events = earlier ++ .reloadUsers accounts :: later →
      Unlisted username (.reloadUsers accounts :: later) →
      let removed := (run host start earlier).after host (.reloadUsers accounts)
      ∀ before sequence body, Meets host removed later before (.command sequence (0x02 :: body)) →
        (before.respond host sequence (0x02 :: body)).isOk = false := by
  intro username
  refine ⟨?_, backend_run host start events, ?_⟩
  · rintro before sequence payload ⟨earlier, later, split, rfl⟩
    have answered := (run host start earlier).answered host sequence payload
    rwa [username_run] at answered
  · rintro earlier accounts later split unlisted removed before sequence body
      ⟨between, rest, parts, rfl⟩
    -- The user is gone after the reload, and no reload in between brings the name back.
    apply isOk_of_unregistered
    have recorded : removed.backend.username = start.backend.username :=
      username_run host start earlier
    rw [username_run, recorded]
    apply users_run_of_unlisted
    · exact UserRegistry.get?_ofList_eq_none (unlisted accounts List.mem_cons_self)
    · intro relisted reloaded
      apply unlisted relisted
      rw [parts]
      exact List.mem_cons_of_mem _ (List.mem_append_left _ reloaded)

def shop : SchemaSnapshot := .ofList [{ name := "orders" }]

def ordersSelection : Bytes := 0x02 :: Utf8.encode "orders"

/-- A user whom one reload leaves out and the next one lists selects as before. And where an
account has no name, a session without a user selects by its grants. -/
theorem left_out_and_nameless_users_select :
    (let app : Account := { username := "app" }
     let start : State :=
       ⟨{ users := .ofList [app], schemas := { current := shop } }, { username := some "app" }⟩
     let removed := run "127.0.0.1" start [.reloadUsers []]
     let relisted := run "127.0.0.1" removed [.reloadUsers [app]]
     removed.registries.users.get? "app" = none ∧
       (relisted.respond "127.0.0.1" 0 ordersSelection).isOk = true) ∧
    (let start : State :=
       ⟨{ users := .ofList [{ username := "" }], schemas := { current := shop } }, {}⟩
     start.backend.username = none ∧
       (start.respond "127.0.0.1" 0 ordersSelection).isOk = true) := by
  decide +kernel

end State

end Command

end SqlGate
