import Mathlib.Logic.Function.Basic
import SqlGate.Proofs.ConnectionId
import SqlGate.Proofs.Handshake.Turn

/-!
# Connections that share their numbers

Connections may draw their numbers from one source, and their calls may come in any order. Each
greeting that is accepted takes the next number, and no other call takes one. So the numbers
that were given out are the first ones of the source, in the order of the greetings.
-/

namespace SqlGate.Handshake

set_option autoImplicit false

def Answer.number? : Answer → Option UInt32
  | numbered connectionId => some connectionId
  | concluded _ => none
  | refused _ => none

/-! ## One call -/

structure Numbers (before : Exchange) (answer : Answer) (after : Exchange) : Prop where
  /-- Whoever is numbered has the next number, in the greeting and in the backend. -/
  drawn : ∀ number, answer.number? = some number →
    before.ids.draw = (number, after.ids) ∧
      after.backend.connectionId = number ∧
      ∃ greeting,
        after.sent = before.sent ++ [⟨0, .greeting greeting⟩] ∧ greeting.connectionId = number
  kept : answer.number? = none → after.ids = before.ids
  refused : ∀ violation, answer = .refused violation → after = before

section Numbers

variable {before after : Exchange}

theorem Numbers.of_refused (violation : Violation) :
    Numbers before (.refused violation) before where
  drawn number numbered := by cases numbered
  kept _ := rfl
  refused _ _ := rfl

theorem Numbers.of_concluded (outcome : Outcome) (same : after.ids = before.ids) :
    Numbers before (.concluded outcome) after where
  drawn number numbered := by cases numbered
  kept _ := same
  refused violation refuses := by cases refuses

theorem Numbers.of_greeted (scramble : Scramble) :
    Numbers before (.numbered before.ids.draw.1) (before.greeted scramble) where
  drawn number numbered := by
    cases numbered
    exact ⟨rfl, rfl, _, rfl, rfl⟩
  kept unnumbered := by cases unnumbered
  refused violation refuses := by cases refuses

theorem numbers_turn
    {Source : Type}
    {services : Source → Services}
    {call : Call Source}
    {answer : Answer}
    (turn : Turn services before call answer after) :
    Numbers before answer after := by
  cases turn with
  | greeted scramble phase unput => exact .of_greeted scramble
  | greetedAlready scramble put phase => exact .of_refused _
  | malformed packet challenge problem phase put broken => exact .of_concluded _ rfl
  | judged packet challenge login phase put decoded plugin verdict made =>
      exact .of_concluded _ rfl
  | switched packet challenge login phase put decoded plugin => exact .of_concluded _ rfl
  | judgedAnew packet challenge attempt phase put recorded verdict made =>
      exact .of_concluded _ rfl
  | untimely packet notFast notSwitched => exact .of_refused _

theorem numbers_perform
    {Source : Type}
    (services : Source → Services)
    (before : Exchange)
    (call : Call Source) :
    Numbers before (perform services before call).1 (perform services before call).2 := by
  rcases turn_or_refusal services before call with turn | ⟨violation, refuses⟩
  · exact numbers_turn turn
  · rw [refuses]
    exact .of_refused violation

end Numbers

/-! ## Many connections -/

structure Crowd (Name : Type) where
  ids : ConnectionIds
  exchanges : Name → Exchange

namespace Crowd

variable {Name Source : Type}

/-- A connection as its calls find it, with the numbers that are left for all. -/
def exchange (crowd : Crowd Name) (name : Name) : Exchange :=
  { crowd.exchanges name with ids := crowd.ids }

variable [DecidableEq Name]

def perform
    (services : Source → Services)
    (crowd : Crowd Name)
    (name : Name)
    (call : Call Source) :
    Answer × Crowd Name :=
  let (answer, after) := Handshake.perform services (crowd.exchange name) call
  (answer, ⟨after.ids, Function.update crowd.exchanges name after⟩)

def run
    (services : Source → Services)
    (crowd : Crowd Name)
    (calls : List (Name × Call Source)) :
    Crowd Name :=
  calls.foldl (fun current call => (current.perform services call.1 call.2).2) crowd

def numbers (services : Source → Services) : Crowd Name → List (Name × Call Source) → List UInt32
  | _, [] => []
  | crowd, (name, call) :: later =>
      let (answer, after) := crowd.perform services name call
      answer.number?.toList ++ numbers services after later

variable (services : Source → Services)
variable (crowd : Crowd Name)

theorem exchange_perform (name : Name) (call : Call Source) :
    (crowd.perform services name call).2.exchange name =
      (Handshake.perform services (crowd.exchange name) call).2 := by
  simp [perform, exchange]

theorem exchange_perform_other {name other : Name} (differs : other ≠ name) (call : Call Source) :
    let after := (crowd.perform services name call).2
    after.exchange other = { crowd.exchange other with ids := after.ids } := by
  simp [perform, exchange, Function.update_of_ne differs]

theorem numbers_at (name : Name) (call : Call Source) :
    Numbers (crowd.exchange name) (crowd.perform services name call).1
      ((crowd.perform services name call).2.exchange name) := by
  rw [exchange_perform]
  exact numbers_perform services (crowd.exchange name) call

/-- However the calls of the connections alternate, they draw from the source in turn. -/
theorem drawMany_numbers (calls : List (Name × Call Source)) :
    let numbers := crowd.numbers services calls
    crowd.ids.drawMany numbers.length = (numbers, (crowd.run services calls).ids) := by
  induction calls generalizing crowd with
  | nil => rfl
  | cons next later ih =>
      obtain ⟨name, call⟩ := next
      intro numbers
      let after := (crowd.perform services name call).2
      have numbered := crowd.numbers_at services name call
      have rest := ih after
      have listed : numbers =
          (crowd.perform services name call).1.number?.toList ++ after.numbers services later := rfl
      have left : (crowd.run services ((name, call) :: later)).ids =
          (after.run services later).ids := rfl
      cases given : (crowd.perform services name call).1.number? with
      | none =>
          have kept : after.ids = crowd.ids := numbered.kept given
          rw [left, listed, given, ← kept]
          exact rest
      | some number =>
          have drawn : crowd.ids.draw = (number, after.ids) := (numbered.drawn number given).1
          have longer : numbers.length = (after.numbers services later).length + 1 := by
            simp [listed, given]
          rw [longer, ConnectionIds.drawMany, drawn]
          dsimp only
          rw [rest, left, listed, given]
          rfl

end Crowd

/-- Numbers come in turn from the first, and after the largest the turn is at one again. Zero is
never among them, and none comes twice until all came once. So it is with one counter that any
number of clients count on, and with the greetings of any connections in whatever order
their calls come: each that is accepted has the next number, and a call that is refused takes none. -/
theorem connections_are_numbered_in_turn
    {Name Source : Type}
    [DecidableEq Name]
    (services : Source → Services)
    (exchanges : Name → Exchange)
    (calls : List (Name × Call Source))
    (start : UInt32) :
    let ids : ConnectionIds := ⟨start⟩
    let first := if start = 0 then 1 else start.toNat
    (∀ count,
      (ids.drawMany count).1.map UInt32.toNat =
        (List.range count).map fun place => (first - 1 + place) % (2 ^ 32 - 1) + 1) ∧
    (∀ attempts, ids.fetchNumber? (attempts + 2) = some ids.draw) ∧
    (∀ fetches,
      let numbers := (ids.fetchMany fetches).filter (· ≠ 0)
      numbers = (ids.drawMany numbers.length).1) ∧
    (∀ count window, window <:+: (ids.drawMany count).1 →
      (∀ number ∈ window, number ≠ 0) ∧ (window.length ≤ 2 ^ 32 - 1 → window.Nodup)) ∧
    let crowd : Crowd Name := ⟨ids, exchanges⟩
    let numbers := crowd.numbers services calls
    let after := crowd.run services calls
    ids.drawMany numbers.length = (numbers, after.ids) ∧
    (∀ window, window <:+: numbers →
      (∀ number ∈ window, number ≠ 0) ∧ (window.length ≤ 2 ^ 32 - 1 → window.Nodup)) ∧
    ∀ name call,
      let (answer, next) := after.perform services name call
      Numbers (after.exchange name) answer (next.exchange name) ∧
        ∀ other, other ≠ name →
          next.exchange other = { after.exchange other with ids := next.ids } := by
  intro ids first
  have distinct : ∀ count window, window <:+: (ids.drawMany count).1 →
      (∀ number ∈ window, number ≠ 0) ∧ (window.length ≤ 2 ^ 32 - 1 → window.Nodup) := by
    intro count window within
    constructor
    · intro number listed
      exact ConnectionIds.ne_zero_of_mem_drawMany (within.subset listed)
    · exact ConnectionIds.nodup_of_isInfix within
  refine ⟨?_, ids.fetchNumber?_eq_draw, ids.filter_fetchMany, distinct, ?_⟩
  · intro count
    rw [ids.toNat_drawMany, ids.toNat_draw]
  · intro crowd numbers after
    have drawn := crowd.drawMany_numbers services calls
    refine ⟨drawn, ?_, ?_⟩
    · intro window within
      apply distinct numbers.length window
      rw [show (ids.drawMany numbers.length).1 = numbers from congrArg Prod.fst drawn]
      exact within
    · intro name call
      exact ⟨after.numbers_at services name call,
        fun other differs => after.exchange_perform_other services differs call⟩

end SqlGate.Handshake
