import SqlGate.Backend
import SqlGate.Policy
import SqlGate.ReplyStream

/-!
# Commands

After the login a client sends commands. It may leave, ask for a sign of life,
or select a schema; anything else is an unknown command. Leaving has no
answer, and every other command has one.
-/

namespace SqlGate

set_option autoImplicit false

inductive Command where
  | quit
  | ping
  | selectSchema (name : String)
  | unknown
deriving DecidableEq, Repr

def Command.ofPayload : Bytes → Command
  | [] => .unknown
  | code :: body =>
      if code = 0x01 then .quit
      else if code = 0x0E then .ping
      else if code = 0x02 then .selectSchema (Utf8.decodeLossy body)
      else .unknown

namespace Command

inductive Action where
  | goOn
  | close
deriving DecidableEq, Repr

structure Response where
  action : Action
  reply : Option Outbound
  backend : Backend

/-- The backend after a request for a schema, or the error and what fills its
slots. Grants come first: a schema outside them is denied whether or not it
exists. -/
def selectSchemaFor (services : Services) (host name : String) (backend : Backend) :
    Except (ErrorCode × List String) Backend :=
  let username := backend.username.getD ""
  if services.policy.permits username name then
    match services.resolve name with
    | none => .error (.unknownDatabase, [name])
    | some schema => .ok { backend with schema := some schema }
  else .error (.databaseDenied, [username, host, name])

def respond
    (services : Services)
    (host : String)
    (sequence : UInt8)
    (payload : Bytes)
    (backend : Backend) :
    Response :=
  let replies := ReplyStream.replyTo {} sequence
  match ofPayload payload with
  | quit => ⟨.close, none, backend⟩
  | ping => ⟨.goOn, some replies.ok.1, backend⟩
  | selectSchema name =>
      match selectSchemaFor services host name backend with
      | .ok changed => ⟨.goOn, some replies.ok.1, changed⟩
      | .error (code, values) => ⟨.goOn, some (replies.error code values).1, backend⟩
  | unknown => ⟨.goOn, some (replies.error .unknownCommand []).1, backend⟩

end Command

end SqlGate
