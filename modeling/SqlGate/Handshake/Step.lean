import SqlGate.Handshake.State

/-!
# Steps of a handshake

`greet` sends the greeting and `receive` answers a packet of the client. Each
of them sends one packet, or refuses the call as a violation and sends none.

A client that negotiated the policy's plugin is judged at once. Any other is
asked to switch, and the whole of its next packet is the response.
-/

namespace SqlGate

set_option autoImplicit false

/-- All that a step of a handshake can change. -/
structure Exchange where
  ids : ConnectionIds := {}
  handshake : Handshake := {}
  backend : Backend := {}
  /-- The packets sent so far, oldest first. -/
  sent : List Outbound := []
  /-- The logins that the policy was asked about, oldest first. -/
  asked : List Credentials := []

namespace Handshake

abbrev Step := EStateM Violation Exchange

def enter (next : Phase) : Step Unit := do
  let exchange ← get
  match exchange.handshake.phase.transition next with
  | .ok phase => set { exchange with handshake := { exchange.handshake with phase } }
  | .error violation => throw violation

def send (produce : ReplyStream → Outbound × ReplyStream) : Step Unit :=
  modify fun exchange =>
    let (outbound, replies) := produce exchange.handshake.replies
    { exchange with
      handshake := { exchange.handshake with replies }
      sent := exchange.sent ++ [outbound] }

def modifyHandshake (change : Handshake → Handshake) : Step Unit :=
  modify fun exchange => { exchange with handshake := change exchange.handshake }

def unexpectedPacket {α : Type} : Step α := do
  throw (.unexpectedPacket (← get).handshake.phase)

def greet (scramble : Scramble) : Step UInt32 := do
  if (← get).handshake.challenge.isSome then throw .alreadyGreeted
  enter .fastPath
  let (connectionId, ids) := (← get).ids.draw
  send (·.greeting connectionId scramble .serverDefault)
  modifyHandshake fun handshake =>
    { handshake with challenge := some { connectionId, scramble } }
  modify fun exchange =>
    { exchange with ids, backend := { exchange.backend with connectionId } }
  return connectionId

def reject (code : ErrorCode) (values : List String) : Step Outcome := do
  enter .rejected
  send (·.error code values)
  return .rejected code

def refusalValues (host : String) (attempt : LoginAttempt) : ErrorCode → List String
  | .accessDenied => [attempt.username, host, attempt.usingPassword]
  | .databaseDenied => [attempt.username, host, attempt.database.getD ""]
  | .unknownDatabase => [attempt.database.getD ""]
  | _ => []

def consult (policy : LoginPolicy) (credentials : Credentials) : Step (Except ErrorCode Unit) := do
  modify fun exchange => { exchange with asked := exchange.asked ++ [credentials] }
  return policy.check credentials

/-- The schema that the client asked for, if it asked for one; `none` where
there is no such schema. -/
def requestedSchema (services : Services) (attempt : LoginAttempt) : Option (Option Schema) :=
  match attempt.database with
  | none => some none
  | some name => (services.resolve name).map some

/-- A database that does not exist is refused before the policy is asked. -/
def judge (services : Services) : Step Outcome := do
  let handshake := (← get).handshake
  let (some challenge, some attempt) := (handshake.challenge, handshake.attempt)
    | unexpectedPacket
  let some schema := requestedSchema services attempt
    | reject .databaseDenied (refusalValues handshake.host attempt .databaseDenied)
  let verdict ← consult services.policy
    { username := attempt.username
      host := handshake.host
      authResponse := attempt.authResponse
      database := attempt.database
      scramble := challenge.scramble.toList }
  match verdict with
  | .error code => reject code (refusalValues handshake.host attempt code)
  | .ok () =>
      enter .authenticated
      send (·.ok)
      modify fun exchange =>
        { exchange with
          backend :=
            { connectionId := challenge.connectionId
              username := some attempt.username
              schema } }
      return .authenticated

/-- Whether the client's response was made by this plugin. -/
def negotiated (packet : LoginPacket) (plugin : String) : Bool :=
  packet.capabilities.has .pluginAuth && packet.plugin == some plugin

def record (handshake : Handshake) (packet : LoginPacket) : Handshake :=
  { handshake with
    challenge := handshake.challenge.map fun challenge =>
      { challenge with capabilities := packet.capabilities }
    attempt := some (.ofPacket packet)
    authResponse := packet.authResponse }

def receiveLogin (services : Services) (payload : Bytes) : Step Outcome := do
  match LoginPacket.decode payload with
  | .error _ => reject .badHandshake []
  | .ok packet =>
      modifyHandshake (record · packet)
      if negotiated packet services.policy.plugin then
        judge services
      else
        enter .methodMismatch
        let some challenge := (← get).handshake.challenge
          | unexpectedPacket
        send (·.switchRequest services.policy.plugin challenge.scramble)
        return .switchRequested

def receiveSwitched (services : Services) (payload : Bytes) : Step Outcome := do
  enter .switchResponseReceived
  modifyHandshake fun handshake =>
    { handshake with
      attempt := handshake.attempt.map fun attempt => { attempt with authResponse := payload }
      authResponse := payload }
  judge services

/-- Only a client that was greeted and is not judged yet may send a packet. -/
def receive (services : Services) (sequence : UInt8) (payload : Bytes) : Step Outcome := do
  let handshake := (← get).handshake
  match handshake.challenge, handshake.phase, handshake.attempt with
  | some _, .fastPath, _ =>
      modifyHandshake fun handshake =>
        { handshake with replies := handshake.replies.replyTo sequence }
      receiveLogin services payload
  | some _, .methodMismatch, some _ =>
      modifyHandshake fun handshake =>
        { handshake with replies := handshake.replies.replyTo sequence }
      receiveSwitched services payload
  | _, _, _ => unexpectedPacket

end Handshake

end SqlGate
