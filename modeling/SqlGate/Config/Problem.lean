import SqlGate.Yaml.Decoder

/-!
# Problems of configurations

Why a configuration is refused.
-/

namespace SqlGate

set_option autoImplicit false

inductive Config.Problem where
  /-- The text is no document. -/
  | malformed
  /-- The document is no configuration. -/
  | undecodable (error : Yaml.DecodeError)
  /-- A password stands in a variable that is not set. -/
  | unsetPassword (username name : String)
  | noUsers
  | emptyUsername
  | duplicateUser (username : String)
  | unknownSchema (username schema : String)
  | emptySchemaName
deriving DecidableEq, Repr

def Config.Problem.message : Config.Problem → String
  | malformed => "<yaml syntax>"
  | undecodable error => error.message
  | unsetPassword username name =>
      "Password for user '" ++ username ++ "' references unset env var " ++ name
  | noUsers => "At least one user must be configured"
  | emptyUsername => "User entries must have a non-empty username"
  | duplicateUser username => "Duplicate user '" ++ username ++ "'"
  | unknownSchema username schema =>
      "User '" ++ username ++ "' is authorized for unknown schema '" ++ schema ++ "'"
  | emptySchemaName => "Schema names must not be empty"

end SqlGate
