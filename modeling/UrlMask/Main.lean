import UrlMask.Program

/-!
# The command line program

Finds what a run needs (settings, files, standard input), and puts into effect what the run
comes to.
-/
namespace UrlMask.Main

/-- The directory that a setting names, or a place below the home directory. -/
def baseDirectory (setting below : String) : IO String := do
  match ← IO.getEnv setting with
  | some path => if path.startsWith "/" then return path
  | none => pure ()
  return (← IO.getEnv "HOME").getD "" ++ below

/-- Everything that comes from a stream. -/
partial def readAll (stream : IO.FS.Stream) (read : ByteArray) : IO ByteArray := do
  let part ← stream.read 65536
  if part.isEmpty then return read else readAll stream (read ++ part)

/-- Why something cannot be read. -/
def unreadable : IO.Error → Command.Unreadable
  | .noFileOrDirectory .. => .missing
  | .inappropriateType .. => .directory
  | .permissionDenied _ code details => .other s!"{details} (os error {code})"
  | e => .other (toString e)

/-- What a path leads to. -/
def readFile (path : String) : IO (Except Command.Unreadable (List UInt8)) := do
  try
    return .ok (← IO.FS.readBinFile path).toList
  catch e =>
    return .error (unreadable e)

/-- The path of the log, once it can be opened. -/
def openLog (directory path : String) : IO (Option String) := do
  try
    IO.FS.createDirAll directory
    let _ ← IO.FS.Handle.mk path .append
    return some path
  catch _ => return none

/-- Finds the configuration in its directory. Where there is none, the default is written. One that
is there and cannot be read is left alone. -/
def findConfig (s : Surroundings) (directory : String) :
    IO (Except Command.Unreadable Surroundings) := do
  IO.FS.createDirAll directory
  match ← readFile s.configPath with
  | .ok bytes => return .ok { s with config := some bytes }
  | .error .missing =>
    IO.FS.writeBinFile s.configPath ⟨(Program.configAfter s).toArray⟩
    return .ok s
  | .error f => return .error f

/-- Finds what a command reads besides its arguments. -/
def findInput (s : Surroundings) : Invocation → IO Surroundings
  | .filter _ none => return { s with input := (← readAll (← IO.getStdin) .empty).toList }
  | .filter _ (some path) => do
    let found ← readFile path
    return { s with file := fun _ => found }
  | _ => return s

/-- Finds what a run reads. Where the arguments are not accepted, it does not look for anything. -/
def find (s : Surroundings) (directory : String) (args : List String) :
    IO (Except Command.Unreadable Surroundings) := do
  match CommandLine.read args with
  | .error _ => return .ok s
  | .ok i =>
    match ← findConfig s directory with
    | .ok s => return .ok (← findInput s i)
    | .error f => return .error f

/-- Puts into effect what a run comes to. -/
def carryOut (s : Surroundings) (o : Program.Outcome) : IO UInt32 := do
  if let some path := s.logPath then
    let log ← IO.FS.Handle.mk path .append
    log.putStr (String.ofList (o.logLines s))
  IO.print (String.ofList o.output)
  IO.eprint (String.ofList (o.errors s))
  return UInt32.ofNat o.exitCode

def usageText : CommandLine.Fault → String
  | .help | .nothing => "Usage: purl <compile|check|request|filter> ..."
  | .unknownArgument => "error: unexpected argument"
  | .unknownCommand => "error: unrecognized subcommand"
  | .missingArgument => "error: a required argument was not provided"
  | .repeated => "error: an argument cannot be used multiple times"
  | .needlessValue => "error: unexpected value"
  | .invalidValue => "error: a value is required"

/-- Runs the program with its arguments. -/
def run (args : List String) : IO UInt32 := do
  let state := (← baseDirectory "XDG_STATE_HOME" "/.local/state") ++ "/purl"
  let settings := (← baseDirectory "XDG_CONFIG_HOME" "/.config") ++ "/purl"
  let s : Surroundings :=
    { logPath := ← openLog state (state ++ "/purl.log"), logSetting := ← IO.getEnv "RUST_LOG",
      configPath := settings ++ "/config.toml", config := none, file := fun _ => .error .missing,
      input := [] }
  match ← find s settings args with
  | .error f => carryOut s (Program.runUnread s f)
  | .ok s =>
    match Program.run s args with
    | .ok o => carryOut s o
    | .error f =>
      let _ ← carryOut s (Program.opened s)
      if f = .help then IO.println (usageText f) else IO.eprintln (usageText f)
      return UInt32.ofNat (Program.usageExitCode f)

end UrlMask.Main

/-- Runs the program. Where the system refuses something on the way, the run fails with its reason. -/
def main (args : List String) : IO UInt32 := do
  try
    UrlMask.Main.run args
  catch e =>
    IO.eprintln s!"purl error: {(UrlMask.Main.unreadable e).message}"
    return 1
