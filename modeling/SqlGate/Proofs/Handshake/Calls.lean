import SqlGate.Handshake.Step

/-!
# Calls on a handshake

The server may greet at any time and may hand a packet on at any time. A run is
any sequence of such calls, those at the wrong time included. What the server
consults can change between two calls, so every packet comes with the source of
the services that are in force when it arrives.
-/

namespace SqlGate

set_option autoImplicit false

def Exchange.fresh
    (ids : ConnectionIds)
    (serverVersion host : String)
    (backend : Backend) :
    Exchange where
  ids := ids
  handshake := { replies := { serverVersion }, host }
  backend := backend

namespace Handshake

inductive Call (Source : Type) where
  | greet (scramble : Scramble)
  | receive (source : Source) (sequence : UInt8) (payload : Bytes)

inductive Answer where
  | numbered (connectionId : UInt32)
  | concluded (outcome : Outcome)
  | refused (violation : Violation)
deriving DecidableEq, Repr

variable {Source : Type}

def settle {Value : Type} (answer : Value → Answer) :
    EStateM.Result Violation Exchange Value → Answer × Exchange
  | .ok value exchange => (answer value, exchange)
  | .error violation exchange => (.refused violation, exchange)

theorem settle_concluded
    {result : EStateM.Result Violation Exchange Outcome}
    {outcome : Outcome}
    {exchange : Exchange}
    (settles : settle .concluded result = (.concluded outcome, exchange)) :
    result = .ok outcome exchange := by
  cases result with
  | ok given left =>
      cases settles
      rfl
  | error violation left => cases settles

def perform (services : Source → Services) (exchange : Exchange) :
    Call Source → Answer × Exchange
  | .greet scramble => settle .numbered ((greet scramble).run exchange)
  | .receive source sequence payload =>
      settle .concluded ((receive (services source) sequence payload).run exchange)

def run (services : Source → Services) (exchange : Exchange) (calls : List (Call Source)) :
    Exchange :=
  calls.foldl (fun current call => (perform services current call).2) exchange

theorem run_cons
    (services : Source → Services)
    (exchange : Exchange)
    (call : Call Source)
    (calls : List (Call Source)) :
    run services exchange (call :: calls) =
      run services (perform services exchange call).2 calls := rfl

theorem run_append
    (services : Source → Services)
    (exchange : Exchange)
    (earlier later : List (Call Source)) :
    run services exchange (earlier ++ later) =
      run services (run services exchange earlier) later :=
  List.foldl_append

/-- A run meets a call with the exchange that the earlier calls left. -/
def Meets
    (services : Source → Services)
    (start : Exchange)
    (calls : List (Call Source))
    (before : Exchange)
    (call : Call Source) :
    Prop :=
  ∃ earlier later, calls = earlier ++ call :: later ∧ before = run services start earlier

structure Inbound (Source : Type) where
  source : Source
  sequence : UInt8
  payload : Bytes

def Inbound.call (packet : Inbound Source) : Call Source :=
  .receive packet.source packet.sequence packet.payload

theorem Inbound.eq_of_call_eq {packet other : Inbound Source} (same : packet.call = other.call) :
    packet = other := by
  cases packet
  cases other
  simpa only [Inbound.call, Call.receive.injEq, Inbound.mk.injEq] using same

end Handshake

end SqlGate
