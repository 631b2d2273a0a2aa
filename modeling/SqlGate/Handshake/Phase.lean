/-!
# Phases of a handshake

A handshake goes from its greeting to a verdict, with at most one switch of
the plugin between. `Phase.mayBecome` is the table of the legal steps.
-/

namespace SqlGate.Handshake

set_option autoImplicit false

inductive Phase where
  /-- No greeting was sent. -/
  | initial
  /-- The greeting was sent and the login packet is awaited. -/
  | fastPath
  /-- A switch was requested and its answer is awaited. -/
  | methodMismatch
  /-- The answer is being checked. -/
  | switchResponseReceived
  | authenticated
  | rejected
deriving DecidableEq, Repr, Inhabited

namespace Phase

def name : Phase → String
  | initial => "initial"
  | fastPath => "fast_path"
  | methodMismatch => "method_mismatch"
  | switchResponseReceived => "switch_response_received"
  | authenticated => "authenticated"
  | rejected => "rejected"

def isTerminal : Phase → Bool
  | authenticated => true
  | rejected => true
  | _ => false

def mayBecome : (current next : Phase) → Bool
  | initial, fastPath => true
  | fastPath, methodMismatch => true
  | fastPath, authenticated => true
  | fastPath, rejected => true
  | methodMismatch, switchResponseReceived => true
  | switchResponseReceived, authenticated => true
  | switchResponseReceived, rejected => true
  | _, _ => false

theorem isTerminal_iff (phase : Phase) :
    phase.isTerminal = true ↔ ∀ next, phase.mayBecome next = false := by
  cases phase <;> simp [isTerminal, mayBecome]
  · exact ⟨fastPath, by simp⟩
  · exact ⟨rejected, by simp⟩
  · exact ⟨switchResponseReceived, by simp⟩
  · exact ⟨rejected, by simp⟩

end Phase

inductive Violation where
  | alreadyGreeted
  | illegalTransition (current next : Phase)
  | unexpectedPacket (phase : Phase)
deriving DecidableEq, Repr

def Violation.message : Violation → String
  | alreadyGreeted => "Handshake already performed"
  | illegalTransition current next =>
      s!"Illegal phase transition {current.name} -> {next.name}"
  | unexpectedPacket phase => s!"Unexpected auth packet in phase {phase.name}"

def Phase.transition (current next : Phase) : Except Violation Phase :=
  if current.mayBecome next then .ok next else .error (.illegalTransition current next)

end SqlGate.Handshake
