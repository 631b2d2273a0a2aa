import SqlGate.Packet.Err
import SqlGate.Text.Template

/-!
# Error codes

The errors that clients are told about. Each has a number, an SQL state and a
message with slots for the user, the host and the database.
-/

namespace SqlGate

set_option autoImplicit false

inductive ErrorCode where
  | databaseDenied
  | accessDenied
  | badHandshake
  | unknownCommand
  | unknownDatabase
  | unsupportedAuthMode
deriving DecidableEq, Repr

namespace ErrorCode

def number : ErrorCode → UInt16
  | badHandshake => 1043
  | databaseDenied => 1044
  | accessDenied => 1045
  | unknownCommand => 1047
  | unknownDatabase => 1049
  | unsupportedAuthMode => 1251

def sqlStateText : ErrorCode → String
  | accessDenied => "28000"
  | databaseDenied => "42000"
  | unknownDatabase => "42000"
  | badHandshake => "08S01"
  | unknownCommand => "08S01"
  | unsupportedAuthMode => "08004"

def sqlState (code : ErrorCode) : FixedBytes 5 where
  toList := Utf8.encode code.sqlStateText
  length_toList := by cases code <;> rfl

def template : ErrorCode → Template
  | databaseDenied =>
      [.text "Access denied for user '", .slot, .text "'@'", .slot, .text "' to database '", .slot,
        .text "'"]
  | accessDenied =>
      [.text "Access denied for user '", .slot, .text "'@'", .slot, .text "' (using password: ",
        .slot, .text ")"]
  | badHandshake => [.text "Bad handshake"]
  | unknownCommand => [.text "Unknown command"]
  | unknownDatabase => [.text "Unknown database '", .slot, .text "'"]
  | unsupportedAuthMode =>
      [.text "Client does not support authentication protocol requested by server; ",
        .text "consider upgrading MySQL client"]

def message (code : ErrorCode) (values : List String) : String :=
  code.template.fill values

def packet (code : ErrorCode) (values : List String) : ErrPacket where
  code := code.number
  sqlState := code.sqlState
  message := code.message values

def summary (code : ErrorCode) : String := s!"{code.number.toNat} ({code.sqlStateText})"

end ErrorCode

end SqlGate
