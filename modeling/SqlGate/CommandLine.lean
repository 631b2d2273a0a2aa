import SqlGate.Config.Load

/-!
# Command line

The options of the program, and what they change in a configuration.
-/

namespace SqlGate

set_option autoImplicit false

structure Options where
  configPath : Option String := none
  listenAddress : Option String := none
  listenPort : Option UInt16 := none
deriving DecidableEq, Repr

namespace Options

/-- The first argument that is no option, or lacks its value. -/
structure Unreadable where
  argument : String
deriving DecidableEq, Repr

def Unreadable.message (problem : Unreadable) : String :=
  "cannot read the option " ++ Quoted.text problem.argument

/-- Options may stand in any order; the last of several with one name counts. -/
def ofArguments (options : Options) : List String → Except Unreadable Options
  | [] => .ok options
  | [argument] => .error ⟨argument⟩
  | name :: value :: rest =>
      match name with
      | "-c" => ofArguments { options with configPath := some value } rest
      | "--config" => ofArguments { options with configPath := some value } rest
      | "--listen-address" => ofArguments { options with listenAddress := some value } rest
      | "--listen-port" =>
          match Numeral.below? UInt16.size value with
          | some port => ofArguments { options with listenPort := some (UInt16.ofNat port) } rest
          | none => .error ⟨value⟩
      | _ => .error ⟨name⟩

/-- Options come before what the file and the environment say. -/
def apply (options : Options) (config : Config) : Config where
  server :=
    { config.server with
      listenAddress := options.listenAddress.getD config.server.listenAddress
      listenPort := options.listenPort.getD config.server.listenPort }
  users := config.users
  schemas := config.schemas
  logging := config.logging

end Options

def Config.readyLine (config : Config) : String :=
  "Front-end ready: listening on " ++ config.server.listenAddress ++ ":"
    ++ toString config.server.listenPort.toNat ++ " (" ++ toString config.userRegistry.size
    ++ " users, " ++ toString config.schemaSnapshot.size ++ " schemas)"

end SqlGate
