import SqlGate.Account
import SqlGate.ErrorCode
import SqlGate.Schema

/-!
# Login policies

A policy decides who may log in and which schemas a user may select. The usual
policy checks native passwords against a registry of accounts.
-/

namespace SqlGate

set_option autoImplicit false

/-- The database, if any, is known to exist. -/
structure Credentials where
  username : String
  host : String := ""
  authResponse : Bytes := []
  database : Option String := none
  scramble : Bytes
deriving DecidableEq, Repr

structure LoginPolicy where
  /-- The plugin whose responses the policy can check. -/
  plugin : String := nativePasswordPlugin
  check : Credentials → Except ErrorCode Unit
  permits : (username schema : String) → Bool := fun _ _ => true

namespace UserRegistry

/-- First the user and the response, then the grants: who cannot prove a
password learns nothing about grants. -/
def check (registry : UserRegistry) (credentials : Credentials) : Except ErrorCode Unit :=
  match registry.get? credentials.username with
  | none => .error .accessDenied
  | some account =>
      if account.verifies credentials.scramble credentials.authResponse then
        if credentials.database.all account.mayUse then .ok () else .error .databaseDenied
      else .error .accessDenied

/-- A user that is not registered may select nothing. -/
def permits (registry : UserRegistry) (username schema : String) : Bool :=
  (registry.get? username).any (·.mayUse schema)

def policy (registry : UserRegistry) : LoginPolicy where
  check := registry.check
  permits := registry.permits

end UserRegistry

/-- A reload gives later steps other services. -/
structure Services where
  policy : LoginPolicy
  resolve : String → Option Schema

def Services.ofRegistries (users : UserRegistry) (schemas : SchemaRegistry) : Services where
  policy := users.policy
  resolve := schemas.resolve

end SqlGate
