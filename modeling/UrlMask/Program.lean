import UrlMask.Command.Basic
import UrlMask.CommandLine
import UrlMask.Config.Reading
import UrlMask.Log.Filter

/-!
# The program

A run opens the log, reads the arguments and the configuration, and runs the command. Where there
is no configuration, one with the defaults is written. Where the log cannot be opened, its lines
go to the error stream.

Of a configuration that is no TOML document, or has not the shape of a configuration, it is said
what it lacks, but not at which place of the text. The times in front of the lines of the log are
left out as well.

* `Surroundings`: what a run finds.
* `Program.run`: what a run comes to.
* `Program.runUnread`: what it comes to where the configuration is there, but cannot be read.
-/
namespace UrlMask

/-- What a run of the program finds. -/
structure Surroundings where
  /-- The path of the log, if it can be opened. -/
  logPath : Option String
  /-- The filter that is asked for. -/
  logSetting : Option String
  configPath : String
  /-- The bytes of the configuration, if there is one. -/
  config : Option (List UInt8)
  /-- What a path leads to. -/
  file : String → Except Command.Unreadable (List UInt8)
  /-- What comes from standard input. -/
  input : List UInt8

namespace Program

/-- Why a run fails. -/
inductive Fault where
  | command (f : Command.Fault)
  /-- The configuration at this path is none. -/
  | config (path : String) (f : Config.Fault)

/-- What a run comes to. -/
structure Outcome where
  output : List Char
  /-- All that happened, shown by the log or not. -/
  events : List Event
  /-- Why the run failed, if it did. -/
  fault : Option Fault
  /-- The bytes of the configuration afterwards, if it could be read. -/
  config : List UInt8

/-- Reads the configuration, or the default where there is none. -/
def readConfig (s : Surroundings) : Except Fault Config :=
  match s.config with
  | none => .ok {}
  | some bytes =>
    match Utf8.decode? bytes with
    | none => .error (.command (.during (.readConfig s.configPath) (.unreadable .notText)))
    | some text => (Config.ofText text).mapError (.config s.configPath)

/-- The bytes of the configuration after a run. -/
def configAfter (s : Surroundings) : List UInt8 :=
  s.config.getD (Utf8.encode Config.initialText.toList)

/-- The event of the log being opened, if it was. -/
def logOpened (s : Surroundings) : List Event := (s.logPath.map Event.logOpened).toList

/-- What happens before the command is run. -/
def opening (s : Surroundings) : List Event :=
  logOpened s ++
  (match s.config with
   | some _ => []
   | none => [.configCreated s.configPath])

/-- Filters what a file holds, or standard input where none is named. A directory can be opened,
but not read. -/
def filter (s : Surroundings) (c : Config) (masks : List String) (file : Option String) :
    Report Unit := do
  let input : Except Command.Unreadable (List UInt8) ←
    match file with
    | none => Report.pure (.ok s.input)
    | some path =>
      match s.file path with
      | .ok bytes => Report.pure (.ok bytes)
      | .error .directory => Report.pure (.error .directory)
      | .error f => Report.during (.openFile path) (Report.fail (.unreadable f))
  let n ← Command.filter c masks input
  Report.note (.listDone n)

/-- Runs a command. -/
def perform (s : Surroundings) (c : Config) : Invocation → Report Unit
  | .compile mask => Command.compile mask
  | .check mask urls all => Command.check c mask urls all
  | .request mask url template => Command.request c mask url template
  | .filter masks file => filter s c masks file

/-- Runs the program with a command. -/
def runCommand (s : Surroundings) (i : Invocation) : Outcome :=
  match readConfig s with
  | .error f => ⟨[], opening s, some f, configAfter s⟩
  | .ok c =>
    let r := perform s c i
    let fault := match r.result with
      | .ok _ => none
      | .error f => some (.command f)
    ⟨r.output, opening s ++ .configLoaded c :: r.events, fault, configAfter s⟩

/-- What a run has come to when it looks at its arguments. -/
def opened (s : Surroundings) : Outcome := ⟨[], logOpened s, none, []⟩

/-- What a run comes to that finds a configuration which the system does not let it read. It fails
before its command, and the configuration stays as it is. -/
def runUnread (s : Surroundings) (f : Command.Unreadable) : Outcome :=
  { opened s with fault := some (.command (.during (.readConfig s.configPath) (.unreadable f))) }

/-- Bytes that are no text are a configuration that cannot be read, too. -/
theorem runCommand_of_notText {s : Surroundings} {bytes : List UInt8} (hs : s.config = some bytes)
    (hbytes : Utf8.decode? bytes = none) (i : Invocation) :
    runCommand s i = { runUnread s .notText with config := bytes } := by
  have hread : readConfig s =
      .error (.command (.during (.readConfig s.configPath) (.unreadable .notText))) := by
    simp only [readConfig, hs, hbytes]
  simp only [runCommand, hread, runUnread, opened, opening, configAfter, hs, List.append_nil]
  rfl

/-- Runs the program. -/
def run (s : Surroundings) (args : List String) : Except CommandLine.Fault Outcome :=
  (CommandLine.read args).map (runCommand s)

/-! ## What is seen of a run -/

/-- What is said of a fault. A text that is no TOML document is only said to be none: the line, the
column and the cause are left out, and so is the place of a value of the wrong shape. -/
def Fault.message : Fault → String
  | command f => f.message
  | config path .notToml => s!"parse config: {path}: TOML parse error"
  | config path (.shape f) => s!"parse config: {path}: {f.message}"

namespace Outcome

/-- The lines of the log. -/
def logLines (o : Outcome) (s : Surroundings) : List Char :=
  (o.events.filter (LogFilter.ofSetting s.logSetting).shows).flatMap Event.line

/-- What is written to the log, if it can be opened. -/
def log (o : Outcome) (s : Surroundings) : Option (List Char) :=
  if s.logPath.isSome then some (o.logLines s) else none

/-- What is said of a fault. -/
def faultLines (o : Outcome) : List Char :=
  match o.fault with
  | some f => "purl error: ".toList ++ f.message.toList ++ ['\n']
  | none => []

/-- What is written to the error stream. -/
def errors (o : Outcome) (s : Surroundings) : List Char :=
  (if s.logPath.isSome then [] else o.logLines s) ++ o.faultLines

/-- The number that the program ends with. -/
def exitCode (o : Outcome) : Nat := if o.fault.isSome then 1 else 0

end Outcome

/-- The number that the program ends with where it runs no command. -/
def usageExitCode : CommandLine.Fault → Nat
  | .help => 0
  | _ => 2

end Program

end UrlMask
