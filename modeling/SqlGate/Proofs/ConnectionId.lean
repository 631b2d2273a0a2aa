import Mathlib.Algebra.Group.Nat.Defs
import Mathlib.Data.List.Nodup
import SqlGate.ConnectionId

/-!
# Numbers in turn

Numbers go from one to the largest word and begin again, so that every number comes once before
any comes twice. They are found by counting on: zero is counted and handed to nobody.
-/

namespace SqlGate.ConnectionIds

set_option autoImplicit false

/-! ## Counts -/

def fetch (ids : ConnectionIds) : UInt32 × ConnectionIds := (ids.next, ⟨ids.next + 1⟩)

/-- The attempts may run out. -/
def fetchNumber? : (attempts : Nat) → ConnectionIds → Option (UInt32 × ConnectionIds)
  | 0, _ => none
  | attempts + 1, ids =>
      if ids.fetch.1 = 0 then fetchNumber? attempts ids.fetch.2 else some ids.fetch

/-- The next counts, zeros among them, whoever fetches them. -/
def fetchMany : (fetches : Nat) → ConnectionIds → List UInt32
  | 0, _ => []
  | fetches + 1, ids => ids.fetch.1 :: fetchMany fetches ids.fetch.2

section Counts

variable {ids : ConnectionIds}

theorem draw_of_zero (zero : ids.next = 0) : ids.draw = ids.fetch.2.fetch := by
  simp [draw, fetch, zero]

theorem draw_of_ne_zero (counts : ids.next ≠ 0) : ids.draw = ids.fetch := by
  simp [draw, fetch, counts]

/-- A second attempt is enough. -/
theorem fetchNumber?_eq_draw (ids : ConnectionIds) (attempts : Nat) :
    ids.fetchNumber? (attempts + 2) = some ids.draw := by
  by_cases zero : ids.fetch.1 = 0
  · have next : ids.next = 0 := zero
    have one : ids.fetch.2.fetch.1 ≠ 0 := by simp [fetch, next]
    rw [fetchNumber?, if_pos zero, fetchNumber?, if_neg one, draw_of_zero zero]
  · rw [fetchNumber?, if_neg zero, draw_of_ne_zero zero]

theorem fst_drawMany_congr
    {other : ConnectionIds}
    (same : ids.draw = other.draw)
    (count : Nat) :
    (ids.drawMany count).1 = (other.drawMany count).1 := by
  cases count with
  | zero => rfl
  | succ count => simp only [drawMany, same]

theorem filter_fetchMany (ids : ConnectionIds) (fetches : Nat) :
    let numbers := (ids.fetchMany fetches).filter (· ≠ 0)
    numbers = (ids.drawMany numbers.length).1 := by
  intro numbers
  induction fetches generalizing ids with
  | zero => rfl
  | succ fetches ih =>
      have rest := ih ids.fetch.2
      by_cases zero : ids.next = 0
      · have next : ids.fetch.2.draw = ids.draw := by
          rw [draw_of_zero zero, draw_of_ne_zero]
          simp [fetch, zero]
        have skips : numbers = (fetchMany fetches ids.fetch.2).filter (· ≠ 0) := by
          simp [numbers, fetchMany, fetch, zero]
        rw [skips, ← fst_drawMany_congr next]
        exact rest
      · have hands : numbers = ids.next :: (fetchMany fetches ids.fetch.2).filter (· ≠ 0) := by
          simp [numbers, fetchMany, fetch, zero]
        rw [hands, List.length_cons, drawMany, draw_of_ne_zero zero]
        exact congrArg (ids.next :: ·) rest

end Counts

/-! ## Numbers -/

theorem toNat_draw (ids : ConnectionIds) :
    ids.draw.1.toNat = if ids.next = 0 then 1 else ids.next.toNat := by
  simp only [draw]
  split
  · rfl
  · rfl

theorem toNat_draw_bounds (ids : ConnectionIds) :
    1 ≤ ids.draw.1.toNat ∧ ids.draw.1.toNat ≤ 2 ^ 32 - 1 := by
  have small := ids.draw.1.toNat_lt
  have counts : ids.draw.1.toNat ≠ 0 := fun zero => ids.draw_ne_zero (UInt32.toNat_inj.mp zero)
  omega

theorem toNat_draw_draw (ids : ConnectionIds) :
    ids.draw.2.draw.1.toNat = ids.draw.1.toNat % (2 ^ 32 - 1) + 1 := by
  have bounds := ids.toNat_draw_bounds
  have next : ids.draw.2.next.toNat = (ids.draw.1.toNat + 1) % 2 ^ 32 := UInt32.toNat_add ..
  have zero : (0 : UInt32).toNat = 0 := rfl
  rw [toNat_draw]
  split
  · rename_i wraps
    rw [wraps, zero] at next
    omega
  · rename_i counts
    rw [← UInt32.toNat_inj, next, zero] at counts
    omega

theorem toNat_drawMany (ids : ConnectionIds) (count : Nat) :
    (ids.drawMany count).1.map UInt32.toNat =
      (List.range count).map fun place =>
        (ids.draw.1.toNat - 1 + place) % (2 ^ 32 - 1) + 1 := by
  induction count generalizing ids with
  | zero => rfl
  | succ count ih =>
      have bounds := ids.toNat_draw_bounds
      have head : (ids.draw.1.toNat - 1 + 0) % (2 ^ 32 - 1) + 1 = ids.draw.1.toNat := by omega
      have tail : ∀ place,
          (ids.draw.2.draw.1.toNat - 1 + place) % (2 ^ 32 - 1) + 1 =
            (ids.draw.1.toNat - 1 + (place + 1)) % (2 ^ 32 - 1) + 1 := by
        intro place
        rw [toNat_draw_draw]
        omega
      rw [List.range_succ_eq_map, List.map_cons, List.map_map, head, drawMany, List.map_cons, ih]
      exact congrArg _ (List.map_congr_left fun place _ => tail place)

theorem ne_zero_of_mem_drawMany
    {ids : ConnectionIds}
    {count : Nat}
    {number : UInt32}
    (drawn : number ∈ (ids.drawMany count).1) :
    number ≠ 0 := by
  have listed := List.mem_map_of_mem (f := UInt32.toNat) drawn
  rw [toNat_drawMany, List.mem_map] at listed
  obtain ⟨place, _, same⟩ := listed
  rintro rfl
  cases same

theorem length_drawMany (ids : ConnectionIds) (count : Nat) :
    (ids.drawMany count).1.length = count := by
  have lengths := congrArg List.length (ids.toNat_drawMany count)
  simpa using lengths

theorem drawMany_add (ids : ConnectionIds) (earlier later : Nat) :
    (ids.drawMany (earlier + later)).1 =
      (ids.drawMany earlier).1 ++ ((ids.drawMany earlier).2.drawMany later).1 := by
  induction earlier generalizing ids with
  | zero => rw [Nat.zero_add]; rfl
  | succ earlier ih =>
      rw [Nat.succ_add]
      exact congrArg (ids.draw.1 :: ·) (ih ids.draw.2)

/-- Numbers that were drawn one after another are all that were drawn from some point on. -/
theorem drawn_of_isInfix
    {ids : ConnectionIds}
    {count : Nat}
    {window : List UInt32}
    (within : window <:+: (ids.drawMany count).1) :
    ∃ since : ConnectionIds, window = (since.drawMany window.length).1 := by
  obtain ⟨before, after, split⟩ := within
  have total : before.length + (window.length + after.length) = count := by
    have lengths := congrArg List.length split
    rw [length_drawMany, List.length_append, List.length_append] at lengths
    omega
  rw [← total, drawMany_add, drawMany_add, List.append_assoc] at split
  have behind := List.append_inj split (length_drawMany ..).symm
  exact ⟨_, (List.append_inj behind.2 (length_drawMany ..).symm).1⟩

theorem nodup_drawMany (ids : ConnectionIds) {count : Nat} (few : count ≤ 2 ^ 32 - 1) :
    (ids.drawMany count).1.Nodup := by
  apply List.Nodup.of_map UInt32.toNat
  rw [toNat_drawMany]
  apply List.Nodup.map_on _ List.nodup_range
  intro one first other second same
  rw [List.mem_range] at first second
  omega

/-- No number comes twice among as many as there are. -/
theorem nodup_of_isInfix
    {ids : ConnectionIds}
    {count : Nat}
    {window : List UInt32}
    (within : window <:+: (ids.drawMany count).1)
    (few : window.length ≤ 2 ^ 32 - 1) :
    window.Nodup := by
  obtain ⟨since, drawn⟩ := drawn_of_isInfix within
  rw [drawn]
  exact since.nodup_drawMany few

end SqlGate.ConnectionIds
