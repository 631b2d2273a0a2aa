import Std.Data.TreeMap

/-!
# Schemas

The logical databases that clients can select. A snapshot is a fixed set of
them; the registry serves one snapshot and counts how often it was replaced.
Whoever holds an older snapshot goes on reading that one.
-/

namespace SqlGate

set_option autoImplicit false

structure Schema where
  name : String
  dataSources : List String := []
deriving DecidableEq, Repr, Inhabited

structure SchemaSnapshot where
  byName : Std.TreeMap String Schema := ∅

namespace SchemaSnapshot

/-- The last of several schemas with one name counts. -/
def ofList (schemas : List Schema) : SchemaSnapshot :=
  ⟨schemas.foldl (fun known schema => known.insert schema.name schema) ∅⟩

/-- Names are compared exactly. -/
def get? (snapshot : SchemaSnapshot) (name : String) : Option Schema := snapshot.byName[name]?

def contains (snapshot : SchemaSnapshot) (name : String) : Bool := snapshot.byName.contains name

def size (snapshot : SchemaSnapshot) : Nat := snapshot.byName.size

def isEmpty (snapshot : SchemaSnapshot) : Bool := snapshot.byName.isEmpty

def names (snapshot : SchemaSnapshot) : List String := snapshot.byName.keys

end SchemaSnapshot

structure SchemaRegistry where
  current : SchemaSnapshot := {}
  generation : UInt64 := 0

namespace SchemaRegistry

def ofList (schemas : List Schema) : SchemaRegistry := { current := .ofList schemas }

def resolve (registry : SchemaRegistry) (name : String) : Option Schema :=
  registry.current.get? name

def reload (registry : SchemaRegistry) (snapshot : SchemaSnapshot) : SchemaRegistry where
  current := snapshot
  generation := registry.generation + 1

end SchemaRegistry

end SqlGate
