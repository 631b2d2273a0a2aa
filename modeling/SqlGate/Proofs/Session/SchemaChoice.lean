import SqlGate.Proofs.Privacy.Schemas
import SqlGate.Proofs.Text.Utf8

/-!
# When to choose a schema

A client may name its schema in the login packet, or log in without one and select it by
a command. The login asks first whether the schema exists and the command first whether
it is granted, but both let the same schemas through and leave the same backend.
-/

namespace SqlGate

set_option autoImplicit false

namespace Command

def selection (name : String) : Bytes := 0x02 :: Utf8.encode name

theorem ofPayload_selection (name : String) : ofPayload (selection name) = .selectSchema name := by
  have read : ofPayload (selection name) =
      .selectSchema (Utf8.decodeLossy (Utf8.encode name)) := rfl
  rw [read, Utf8.decodeLossy_encode]

theorem respond_granted
    {users : UserRegistry}
    {schemas : SchemaRegistry}
    {username name : String}
    {account : Account}
    {backend : Backend}
    {payload : Bytes}
    (host : String)
    (sequence : UInt8)
    (user : backend.username = some username)
    (registered : users.get? username = some account)
    (asks : ofPayload payload = .selectSchema name)
    (granted : account.mayUse name = true) :
    respond (.ofRegistries users schemas) host sequence payload backend =
      match schemas.resolve name with
      | none =>
          ⟨.goOn, some ⟨sequence + 1, .err (ErrorCode.unknownDatabase.packet [name])⟩, backend⟩
      | some schema =>
          ⟨.goOn, some ⟨sequence + 1, .ok {}⟩, { backend with schema := some schema }⟩ := by
  have permitted : users.permits username name = true :=
    UserRegistry.permits_iff.mpr ⟨account, registered, granted⟩
  have selects : selectSchemaFor (.ofRegistries users schemas) host name backend =
      match schemas.resolve name with
      | none => .error (.unknownDatabase, [name])
      | some schema => .ok { backend with schema := some schema } := by
    rw [selectSchemaFor, user, Option.getD_some]
    exact if_pos permitted
  simp only [respond, asks, selects]
  cases schemas.resolve name with
  | none => rfl
  | some schema => rfl

end Command

namespace Handshake

/-- A login whose response proves the password of its user, with all calls of its connection
up to the packet that decides it. -/
structure ProvedLogin (registries : Registries) where
  scramble : Scramble
  earlier : List (Call Registries)
  packet : Inbound Registries
  login : LoginPacket
  response : Bytes
  account : Account
  decides : Decides Registries.services (received earlier) packet login response
  source : packet.source = registries
  registered : registries.users.get? login.username = some account
  verifies : account.verifies scramble.toList response = true

namespace ProvedLogin

variable {registries : Registries}

def result (proved : ProvedLogin registries) (start : Exchange) : Answer × Exchange :=
  perform Registries.services
    (run Registries.services start (.greet proved.scramble :: proved.earlier)) proved.packet.call

section Result

variable (proved : ProvedLogin registries)
variable (ids : ConnectionIds)
variable (serverVersion host : String)
variable (backend : Backend)

theorem result_eq :
    let start := Exchange.fresh ids serverVersion host backend
    let verdict := ruling registries.services host (start.offer proved.scramble)
      (proved.login.attempt proved.response)
    ∃ asking : Exchange, proved.result start = (.concluded verdict.outcome, asking.ruled verdict) := by
  intro start verdict
  have came := progress_run Registries.services ids serverVersion host backend
    (.greet proved.scramble :: proved.earlier)
  have made : verdict = ruling (Registries.services proved.packet.source) host
      (start.offer proved.scramble) (proved.login.attempt proved.response) := by
    rw [proved.source]
  obtain ⟨asking, _, performed⟩ := perform_decides came.2 proved.decides made
  exact ⟨asking, performed⟩

theorem answer_result :
    (proved.result (.fresh ids serverVersion host backend)).1 =
      .concluded (if proved.login.database.all fun name =>
          registries.schemas.current.contains name && proved.account.mayUse name
        then .authenticated else .rejected .databaseDenied) := by
  obtain ⟨asking, performed⟩ := proved.result_eq ids serverVersion host backend
  rw [performed, outcome_ruling]
  exact congrArg Answer.concluded
    (verdict_proved registries proved.login.database proved.registered proved.verifies)

theorem backend_result
    (admitted : (proved.result (.fresh ids serverVersion host backend)).1 =
      .concluded .authenticated) :
    (proved.result (.fresh ids serverVersion host backend)).2.backend =
      { connectionId := ids.draw.1
        username := some proved.login.username
        schema := proved.login.database.bind registries.schemas.resolve } := by
  obtain ⟨asking, performed⟩ := proved.result_eq ids serverVersion host backend
  rw [performed] at admitted ⊢
  rw [ruling_of_authenticated (Answer.concluded.inj admitted)]
  rfl

end Result

end ProvedLogin

/-- A schema that is named at login is let in just if a login without one can select it
afterwards, and the backends are then the same. Otherwise the login is denied, and the
command is denied as well (1044) or told that the schema is unknown (1049), after which the
session goes on without one. -/
theorem schema_at_login_or_by_command
    (ids : ConnectionIds)
    (serverVersion host : String)
    (backend : Backend)
    {registries : Registries}
    {name : String}
    (early late : ProvedLogin registries)
    (sameUser : early.login.username = late.login.username)
    (named : early.login.database = some name)
    (unnamed : late.login.database = none)
    (sequence : UInt8) :
    let start := Exchange.fresh ids serverVersion host backend
    let username := late.login.username
    let atOnce := early.result start
    let plain := late.result start
    let selected :=
      Command.respond registries.services host sequence (Command.selection name) plain.2.backend
    plain.1 = .concluded .authenticated ∧
    plain.2.backend =
      { connectionId := ids.draw.1, username := some username, schema := none } ∧
    (atOnce.1 = .concluded .authenticated ↔ selected.reply = some ⟨sequence + 1, .ok {}⟩) ∧
    (atOnce.1 = .concluded .authenticated → atOnce.2.backend = selected.backend) ∧
    (atOnce.1 ≠ .concluded .authenticated →
      atOnce.1 = .concluded (.rejected .databaseDenied) ∧
      selected.action = .goOn ∧
      selected.backend = plain.2.backend ∧
      (late.account.mayUse name = false → selected.reply =
        some ⟨sequence + 1, .err (ErrorCode.databaseDenied.packet [username, host, name])⟩) ∧
      (late.account.mayUse name = true →
        registries.schemas.current.contains name = false ∧
          selected.reply =
            some ⟨sequence + 1, .err (ErrorCode.unknownDatabase.packet [name])⟩)) := by
  intro start username atOnce plain selected
  have admitted : plain.1 = .concluded .authenticated := by
    rw [late.answer_result ids serverVersion host backend, unnamed]
    rfl
  have left : plain.2.backend =
      { connectionId := ids.draw.1, username := some username, schema := none } := by
    rw [late.backend_result ids serverVersion host backend admitted, unnamed]
    rfl
  have user : plain.2.backend.username = some username := by rw [left]
  have sameAccount : early.account = late.account := by
    have registered := early.registered
    rw [sameUser] at registered
    exact Option.some.inj (registered.symm.trans late.registered)
  have answered : atOnce.1 = _ := early.answer_result ids serverVersion host backend
  rw [named, Option.all_some, sameAccount, ← SchemaRegistry.isSome_resolve] at answered
  have asks := Command.ofPayload_selection name
  refine ⟨admitted, left, ?_⟩
  -- In the order of the command, which asks for the grant before the schema.
  cases granted : late.account.mayUse name with
  | false =>
      have denied : atOnce.1 = .concluded (.rejected .databaseDenied) := by
        rw [answered, granted, Bool.and_false]
        rfl
      have refused : selected = _ := @Command.respond_ungranted registries.users registries.schemas
        username plain.2.backend late.account name _ host sequence user late.registered asks granted
      rw [denied, refused]
      exact ⟨⟨nofun, nofun⟩, nofun, fun _ => ⟨rfl, rfl, rfl, fun _ => rfl, nofun⟩⟩
  | true =>
      have responded : selected = _ := @Command.respond_granted registries.users registries.schemas
        username name late.account plain.2.backend _ host sequence user late.registered asks granted
      rw [granted, Bool.and_true] at answered
      cases found : registries.schemas.resolve name with
      | none =>
          have unknown : registries.schemas.current.contains name = false := by
            rw [← SchemaRegistry.isSome_resolve, found]
            rfl
          have denied : atOnce.1 = .concluded (.rejected .databaseDenied) := by
            rw [answered, found]
            rfl
          rw [found] at responded
          rw [denied, responded]
          exact ⟨⟨nofun, nofun⟩, nofun, fun _ => ⟨rfl, rfl, rfl, nofun, fun _ => ⟨unknown, rfl⟩⟩⟩
      | some schema =>
          have entered : atOnce.1 = .concluded .authenticated := by
            rw [answered, found]
            rfl
          have chosen : atOnce.2.backend =
              { connectionId := ids.draw.1, username := some username, schema := some schema } := by
            rw [early.backend_result ids serverVersion host backend entered, named, sameUser,
              Option.bind_some, found]
          rw [found] at responded
          rw [entered, responded, chosen, left]
          exact ⟨⟨fun _ => rfl, fun _ => rfl⟩, fun _ => rfl, fun differs => absurd rfl differs⟩

def office : Registries where
  users := .ofList [clerk]
  schemas := .ofList [{ name := "orders" }, { name := "ledger" }]

def clerkLogin (database : Option String) : LoginPacket where
  capabilities := .serverDefault
  username := "clerk"
  database := database
  plugin := some nativePasswordPlugin

theorem negotiated_clerkLogin (database : Option String) :
    negotiated (clerkLogin database) nativePasswordPlugin = true := by
  have flagged : Capabilities.serverDefault.has .pluginAuth = true := by decide
  rw [negotiated, Bool.and_eq_true]
  exact ⟨flagged, beq_self_eq_true _⟩

/-- The clerk needs no password, so that any packet that reads as this login is proved. -/
def provedClerk
    (database : Option String)
    (decoded : LoginPacket.decode (clerkLogin database).encode = .ok (clerkLogin database)) :
    ProvedLogin office where
  scramble := FixedBytes.zero 20
  earlier := []
  packet := ⟨office, 1, (clerkLogin database).encode⟩
  login := clerkLogin database
  response := []
  account := clerk
  decides := .atOnce _ (clerkLogin database) decoded (negotiated_clerkLogin database)
  source := rfl
  registered := (by decide +kernel : office.users.get? "clerk" = some clerk)
  verifies := rfl

theorem clerk_gets_the_orders_either_way :
    ∃ early late : ProvedLogin office,
      early.login = clerkLogin (some "orders") ∧
      late.login = clerkLogin none ∧
      ∀ ids serverVersion host backend sequence,
        let start := Exchange.fresh ids serverVersion host backend
        let selected := Command.respond office.services host sequence
          (Command.selection "orders") (late.result start).2.backend
        selected.reply = some ⟨sequence + 1, .ok {}⟩ ∧
          (early.result start).2.backend = selected.backend := by
  have decodedEarly : LoginPacket.decode (clerkLogin (some "orders")).encode =
      .ok (clerkLogin (some "orders")) := by decide +kernel
  have decodedLate : LoginPacket.decode (clerkLogin none).encode = .ok (clerkLogin none) := by
    decide +kernel
  refine ⟨provedClerk (some "orders") decodedEarly, provedClerk none decodedLate, rfl, rfl, ?_⟩
  intro ids serverVersion host backend sequence start selected
  have granted : ((some "orders").all fun name =>
      office.schemas.current.contains name && clerk.mayUse name) = true := by
    decide +kernel
  have entered : ((provedClerk (some "orders") decodedEarly).result start).1 =
      .concluded .authenticated := by
    rw [ProvedLogin.answer_result]
    exact congrArg Answer.concluded (if_pos granted)
  have either := schema_at_login_or_by_command ids serverVersion host backend
    (provedClerk (some "orders") decodedEarly) (provedClerk none decodedLate) rfl rfl rfl sequence
  exact ⟨either.2.2.1.mp entered, either.2.2.2.1 entered⟩

end Handshake

end SqlGate
