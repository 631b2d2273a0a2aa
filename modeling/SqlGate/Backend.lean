import SqlGate.Schema

/-!
# Backend state

What the proxy behind the gate knows of a connection: its number, the user
that logged in, and the selected schema.
-/

namespace SqlGate

set_option autoImplicit false

structure Backend where
  connectionId : UInt32 := 0
  username : Option String := none
  schema : Option Schema := none
deriving DecidableEq, Repr, Inhabited

namespace Backend

def isAuthenticated (backend : Backend) : Bool := backend.username.isSome

def schemaName (backend : Backend) : Option String := backend.schema.map (·.name)

end Backend

end SqlGate
