import SqlGate.Proofs.Handshake.Decision
import SqlGate.Proofs.Handshake.Observation
import SqlGate.Proofs.Registry

/-!
# What a failed login tells of the accounts

Nothing. Whether there is no account with the name or its password is another one, and
whatever its grants are: the client is told the same.
-/

namespace SqlGate

set_option autoImplicit false

/-- No account of this name takes the response. There may be none. -/
def UserRegistry.Refuses
    (users : UserRegistry)
    (username : String)
    (scramble : Scramble)
    (response : Bytes) :
    Prop :=
  ∀ account, users.get? username = some account →
    account.verifies scramble.toList response = false

theorem UserRegistry.get?_singleton
    {account found : Account}
    {username : String}
    (registered : (UserRegistry.ofList [account]).get? username = some found) :
    found = account := by
  rw [get?_ofList] at registered
  have listed := List.mem_reverse.mp (List.mem_of_find?_eq_some registered)
  exact List.mem_singleton.mp listed

theorem UserRegistry.Refuses.check
    {users : UserRegistry}
    {asked : Credentials}
    {scramble : Scramble}
    (refuses : users.Refuses asked.username scramble asked.authResponse)
    (challenged : asked.scramble = scramble.toList) :
    users.check asked = .error .accessDenied := by
  cases registered : users.get? asked.username with
  | none => exact Handshake.check_unregistered users asked registered
  | some account =>
      have refused := refuses account registered
      rw [Handshake.check_registered users asked registered, challenged, refused]
      rfl

namespace Handshake

variable {Source : Type}

def native
    (users : Source → UserRegistry)
    (schemas : Source → SchemaRegistry)
    (source : Source) :
    Services :=
  .ofRegistries (users source) (schemas source)

/-- The login that the calls settle, if they settle one, is not proved. -/
def Unproved
    (users : Source → UserRegistry)
    (schemas : Source → SchemaRegistry)
    (calls : List (Call Source)) :
    Prop :=
  ∀ scramble packet login response,
    Settles (native users schemas) calls scramble packet login response →
      (users packet.source).Refuses login.username scramble response

/-- That a schema does not exist is told before anyone asks who the client is. -/
def refusalCode (schemas : SchemaRegistry) (database : Option String) : ErrorCode :=
  if database.any fun name => !schemas.current.contains name then .databaseDenied
  else .accessDenied

theorem ruling_refused
    {users : UserRegistry}
    (schemas : SchemaRegistry)
    (host : String)
    {challenge : Challenge}
    {attempt : LoginAttempt}
    (refuses : users.Refuses attempt.username challenge.scramble attempt.authResponse) :
    let code := refusalCode schemas attempt.database
    (ruling (.ofRegistries users schemas) host challenge attempt).outward =
      .refusal code (refusalValues host attempt code) [] := by
  intro code
  have missing := isNone_requestedSchema ⟨users, schemas⟩ attempt
  have refused : users.check (credentials host challenge attempt) = .error .accessDenied :=
    refuses.check rfl
  have check : (Services.ofRegistries users schemas).policy.check
      (credentials host challenge attempt) = .error .accessDenied := refused
  simp only [Registries.services] at missing
  cases found : requestedSchema (.ofRegistries users schemas) attempt with
  | none =>
      rw [found] at missing
      have told : code = .databaseDenied := if_pos missing.symm
      rw [told]
      simp only [ruling, found]
      rfl
  | some schema =>
      rw [found] at missing
      have told : code = .accessDenied := if_neg (ne_true_of_eq_false missing.symm)
      rw [told]
      simp only [ruling, found, check]
      rfl

/-- Packets that settle a login settle it whoever is registered. -/
theorem settles_native
    {users others : Source → UserRegistry}
    {schemas : Source → SchemaRegistry}
    {calls : List (Call Source)}
    {scramble : Scramble}
    {packet : Inbound Source}
    {login : LoginPacket}
    {response : Bytes}
    (settles : Settles (native users schemas) calls scramble packet login response) :
    Settles (native others schemas) calls scramble packet login response := by
  obtain ⟨earlier, later, opened, decides⟩ := settles
  refine ⟨earlier, later, opened, ?_⟩
  cases decides with
  | atOnce packet login decoded plugin => exact .atOnce packet login decoded plugin
  | afterSwitch first packet login decoded plugin =>
      exact .afterSwitch first packet login decoded plugin

/-- A client whose login is not proved is answered alike by any two registries of users.
It cannot tell a name that is missing from a password that is wrong, or what else is
registered: it is told of the schema and of its own login. -/
theorem unproved_logins_look_alike
    (users others : Source → UserRegistry)
    (schemas : Source → SchemaRegistry)
    (ids : ConnectionIds)
    (serverVersion host : String)
    (backend : Backend)
    (calls : List (Call Source))
    (unproved : Unproved users schemas calls)
    (otherwise : Unproved others schemas calls) :
    let start := Exchange.fresh ids serverVersion host backend
    observe (native users schemas) start calls = observe (native others schemas) start calls ∧
      ∀ scramble packet login response,
        Settles (native users schemas) calls scramble packet login response →
          let code := refusalCode (schemas packet.source) login.database
          let final := run (native users schemas) start calls
          final.handshake.phase = .rejected ∧
            final.backend = { backend with connectionId := ids.draw.1 } ∧
            final.sent.getLast? = some ⟨packet.sequence + 1,
              .err (code.packet (refusalValues host (login.attempt response) code))⟩ := by
  intro start
  constructor
  · have rulings : RuleAlike (native users schemas) (native others schemas) start calls := by
      intro scramble packet login response settles
      have refuses := unproved scramble packet login response settles
      have refusesToo := otherwise scramble packet login response (settles_native settles)
      have ruled := @ruling_refused _ (schemas packet.source) host (start.offer scramble)
        (login.attempt response) refuses
      have ruledToo := @ruling_refused _ (schemas packet.source) host (start.offer scramble)
        (login.attempt response) refusesToo
      exact ruled.trans ruledToo.symm
    have plugins : ∀ source, (native users schemas source).policy.plugin =
        (native others schemas source).policy.plugin := fun _ => rfl
    exact (observe_alike ids serverVersion host backend plugins calls rulings).1
  · intro scramble packet login response settles code final
    have refuses := unproved scramble packet login response settles
    have ruled := @ruling_refused _ (schemas packet.source) host (start.offer scramble)
      (login.attempt response) refuses
    exact run_of_refusal ids serverVersion host backend settles ruled

def guest : Account where
  username := "guest"

/-- A guest who gives a password, though none is needed. -/
def guestLogin : LoginPacket where
  capabilities := .serverDefault
  username := "guest"
  authResponse := [1]
  plugin := some nativePasswordPlugin

def guestPacket : Inbound Unit := ⟨(), 1, guestLogin.encode⟩

theorem guest_looks_like_nobody :
    let start := Exchange.fresh {} defaultServerVersion "localhost" {}
    let calls := [Call.greet (FixedBytes.zero 20), guestPacket.call]
    observe (native (fun _ => .ofList [guest]) (fun _ => {})) start calls =
      observe (native (fun _ => {}) (fun _ => {})) start calls := by
  intro start calls
  have decoded : LoginPacket.decode guestPacket.payload = .ok guestLogin := by decide +kernel
  refine (unproved_logins_look_alike (fun _ => .ofList [guest]) (fun _ => {}) (fun _ => {}) {}
    defaultServerVersion "localhost" {} calls ?_ ?_).1
  · intro scramble packet login response settles account registered
    obtain ⟨_, _, read, rfl⟩ := settles_first settles
    cases decoded.symm.trans read
    rw [UserRegistry.get?_singleton registered]
    rfl
  · intro scramble packet login response settles account registered
    cases registered

end Handshake

end SqlGate
