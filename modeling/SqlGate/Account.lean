import SqlGate.NativePassword
import SqlGate.Text.Quoted
import Std.Data.TreeMap

/-!
# Accounts

The users that may log in, each with a password and the schemas granted to it.
A registry finds accounts by their exact name.
-/

namespace SqlGate

set_option autoImplicit false

structure Account where
  username : String
  password : String := ""
  grants : List String := []
deriving DecidableEq, Inhabited

namespace Account

def hasEmptyPassword (account : Account) : Bool := account.password.isEmpty

def verifies (account : Account) (scramble response : Bytes) : Bool :=
  if account.hasEmptyPassword then response.isEmpty
  else NativePassword.verifies account.password scramble response

/-- No grants at all stand for every schema. -/
def mayUse (account : Account) (schema : String) : Bool :=
  account.grants.isEmpty || account.grants.contains schema

/-- The password is not shown. -/
def summaryAs (kind opening closing : String) (account : Account) : String :=
  kind ++ " \x7b username: " ++ Quoted.text account.username
    ++ ", password: \"[REDACTED]\", authorized_schemas: "
    ++ Quoted.list opening closing account.grants ++ " \x7d"

def summary (account : Account) : String := account.summaryAs "ProxyUser" "\x7b" "\x7d"

end Account

structure UserRegistry where
  byName : Std.TreeMap String Account := ∅

namespace UserRegistry

/-- The last of several accounts with one name counts. -/
def ofList (accounts : List Account) : UserRegistry :=
  ⟨accounts.foldl (fun known account => known.insert account.username account) ∅⟩

/-- All users are replaced at once: nobody is kept from the registry before. -/
def reload (_ : UserRegistry) (accounts : List Account) : UserRegistry := ofList accounts

def get? (registry : UserRegistry) (username : String) : Option Account :=
  registry.byName[username]?

def size (registry : UserRegistry) : Nat := registry.byName.size

def isEmpty (registry : UserRegistry) : Bool := registry.byName.isEmpty

end UserRegistry

end SqlGate
