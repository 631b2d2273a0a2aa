import SqlGate.Account
import SqlGate.ReplyStream
import SqlGate.Schema

/-!
# Configurations

What the gate is told at its start: where it listens, who may log in, which
schemas there are, and how much it says.
-/

namespace SqlGate

set_option autoImplicit false

structure Config.Server where
  listenAddress : String := "127.0.0.1"
  listenPort : UInt16
  serverVersion : String := defaultServerVersion
  /-- How long a login may take, in seconds. -/
  handshakeTimeoutSecs : UInt64 := 30
  /-- How many clients may be connected; 0 is no limit. -/
  maxConnections : UInt64 := 0
deriving DecidableEq, Repr

structure Config.Logging where
  level : String := "info"
  protocolDebug : Bool := false
deriving DecidableEq, Repr

structure Config where
  server : Config.Server
  users : List Account := []
  schemas : Std.TreeMap String (List String) := ∅
  logging : Config.Logging := {}

namespace Config

def user? (config : Config) (username : String) : Option Account :=
  config.users.find? (·.username = username)

def userRegistry (config : Config) : UserRegistry := .ofList config.users

def schemaSnapshot (config : Config) : SchemaSnapshot :=
  .ofList (config.schemas.toList.map fun (name, dataSources) => { name, dataSources })

/-- A user entry without its password. -/
def userSummary (account : Account) : String :=
  account.summaryAs "UserConfig" "[" "]"

end Config

end SqlGate
