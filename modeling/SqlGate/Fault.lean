import SqlGate.Handshake.Phase
import SqlGate.Wire.Error

/-!
# Faults

What ends a connection or a start of the gate, sorted by where it comes from.
-/

namespace SqlGate

set_option autoImplicit false

inductive Fault where
  /-- Reading or writing a file or a stream failed. -/
  | io (cause : String)
  | configuration (cause : String)
  /-- A packet is malformed. -/
  | protocol (cause : String)
  /-- A packet came at the wrong time. -/
  | violation (cause : String)
  | timeout (cause : String)
deriving DecidableEq, Repr

namespace Fault

def message : Fault → String
  | io cause => "I/O error: " ++ cause
  | configuration cause => "Configuration error: " ++ cause
  | protocol cause => "Protocol error: " ++ cause
  | violation cause => "Protocol violation: " ++ cause
  | timeout cause => "Timeout: " ++ cause

def isViolation : Fault → Bool
  | violation _ => true
  | _ => false

/-- A stream that ends inside a packet, or before one that is awaited. -/
def streamEnded : Fault := io "early eof"

def notText : Fault := io "stream did not contain valid UTF-8"

def noSuchFile : Fault := io "No such file or directory (os error 2)"

def ofWire (problem : WireError) : Fault := protocol problem.message

def ofViolation (problem : Handshake.Violation) : Fault := violation problem.message

end Fault

end SqlGate
