/-!
# Connection numbers

Connections are numbered from one. The numbers wrap around after the largest
one, and zero is left out.
-/

namespace SqlGate

set_option autoImplicit false

structure ConnectionIds where
  next : UInt32 := 1
deriving DecidableEq, Repr, Inhabited

namespace ConnectionIds

def draw (ids : ConnectionIds) : UInt32 × ConnectionIds :=
  let number := if ids.next = 0 then 1 else ids.next
  (number, ⟨number + 1⟩)

theorem draw_ne_zero (ids : ConnectionIds) : ids.draw.1 ≠ 0 := by
  simp only [draw]
  split
  · decide
  · assumption

def drawMany : (count : Nat) → ConnectionIds → List UInt32 × ConnectionIds
  | 0, ids => ([], ids)
  | count + 1, ids =>
      let (number, ids) := ids.draw
      let (rest, ids) := drawMany count ids
      (number :: rest, ids)

end ConnectionIds

end SqlGate
