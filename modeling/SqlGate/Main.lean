import SqlGate.CommandLine
import SqlGate.Session.Run

/-!
# The program

It loads a configuration and serves one client on its standard input and output,
as a socket server hands a connection to it.
-/

namespace SqlGate.Main

set_option autoImplicit false

/-- The entries of the environment; none where they cannot be read. -/
def readEnvironment : IO Environment := do
  let entries ←
    try
      let bytes ← IO.FS.readBinFile "/proc/self/environ"
      pure (bytes.toList.splitOn 0)
    catch _ => pure []
  return .ofEntries entries

def readConfig (environment : Environment) (path : String) : IO (Except Fault Config) := do
  try
    return Config.ofBytes environment (← IO.FS.readBinFile path).toList
  catch problem =>
    match problem with
    | .noFileOrDirectory .. => return .error .noSuchFile
    | _ => return .error (.io (toString problem))

partial def serve (services : Services) (began seen : Nat) (session : Session) : IO Unit := do
  let output ← IO.getStdout
  for frame in session.written.toList.drop seen do
    output.write frame.bytes.toByteArray
  output.flush
  unless session.isEnded do
    let chunk ← (← IO.getStdin).read 65536
    let passed := (← IO.monoMsNow) - began - session.clock
    let later := session.handle services (.elapse passed)
    let event := if chunk.isEmpty then .inputEnd else .bytes chunk.toList
    serve services began session.written.size (later.handle services event)

def run (options : Options) : IO UInt32 := do
  let some path := options.configPath
    | IO.eprintln "the option --config is missing"
      return 2
  match ← readConfig (← readEnvironment) path with
  | .error fault =>
      IO.eprintln fault.message
      return 1
  | .ok config =>
      let config := options.apply config
      IO.eprintln config.readyLine
      let settings : Session.Settings :=
        { serverVersion := config.server.serverVersion
          handshakeMillis := 1000 * config.server.handshakeTimeoutSecs.toNat }
      let services : Services :=
        .ofRegistries config.userRegistry { current := config.schemaSnapshot }
      let (scramble, _) := NativePassword.randomScramble (mkStdGen (← IO.rand 0 0x7FFFFFFF))
      let (session, _) := Session.start settings {} scramble
      serve services (← IO.monoMsNow) 0 session
      return 0

end SqlGate.Main

def main (arguments : List String) : IO UInt32 :=
  match SqlGate.Options.ofArguments {} arguments with
  | .ok options => SqlGate.Main.run options
  | .error problem => do
      IO.eprintln problem.message
      return 2
