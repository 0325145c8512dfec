/-!
# The command line

The arguments name a command, its options and its positional arguments. An option is written with
two dashes; its value follows behind an equals sign or as the next argument. Behind `--` every
argument is positional.

* `Invocation`: the commands with their arguments.
* `CommandLine.read`: what the arguments ask for, or what is wrong with them.
-/
namespace UrlMask

/-- A command with its arguments. -/
inductive Invocation where
  | compile (mask : String)
  | check (mask : String) (urls : List String) (all : Bool)
  | request (mask url : String) (template : Option String)
  /-- Where no file is named, the URLs come from standard input. -/
  | filter (masks : List String) (file : Option String)
  deriving DecidableEq, Repr

namespace CommandLine

/-- Why the arguments name no command that can be run. -/
inductive Fault where
  /-- Help was asked for. -/
  | help
  /-- There are no arguments. -/
  | nothing
  | unknownArgument
  | unknownCommand
  | missingArgument
  /-- An option that may be given once is given again. -/
  | repeated
  /-- An option that takes no value has one. -/
  | needlessValue
  /-- A value is missing or cannot be used. -/
  | invalidValue
  deriving DecidableEq, Repr

/-- What an option takes, and how often it may be given. -/
inductive Kind where
  /-- No value, once. -/
  | flag
  /-- A value, once. -/
  | text
  /-- A value that is not empty, once. -/
  | path
  /-- A value, any number of times. -/
  | texts
  deriving DecidableEq, Repr

/-- The commands. -/
inductive Verb where
  | compile
  | check
  | request
  | filter
  deriving DecidableEq, Repr

namespace Verb

def all : List Verb := [compile, check, request, filter]

def name : Verb → String
  | compile => "compile"
  | check => "check"
  | request => "request"
  | filter => "filter"

def ofName? (s : String) : Option Verb := all.find? fun v => v.name == s

theorem ofName?_name (v : Verb) : ofName? v.name = some v := by
  cases v <;> decide

/-- The number of positional arguments. -/
def places : Verb → Nat
  | compile => 1
  | check => 2
  | request => 2
  | filter => 0

/-- Whether the last positional argument may be given again. -/
def takesMore : Verb → Bool
  | check => true
  | _ => false

/-- The options by name. -/
def options : Verb → List (String × Kind)
  | compile => []
  | check => [("all", .flag)]
  | request => [("template", .text)]
  | filter => [("purl", .texts), ("input", .path)]

def option? (v : Verb) (name : String) : Option Kind :=
  (v.options.find? (·.1 == name)).map (·.2)

end Verb

/-- What has been read of the arguments of a command. -/
structure Progress where
  /-- The positional arguments. -/
  places : List String
  /-- The options with their values, in order. A flag has the empty value. -/
  options : List (String × String)
  /-- An option that takes a value and has not been taken up yet, with its value once that has
  been read. -/
  pending : Option (String × Option String)
  deriving DecidableEq, Repr

namespace Progress

def start : Progress := ⟨[], [], none⟩

def has (p : Progress) (name : String) : Bool := p.options.any (·.1 == name)

/-- Takes up an option with its value. -/
def take (v : Verb) (p : Progress) (name value : String) : Except Fault Progress :=
  let taken := { p with options := p.options ++ [(name, value)] }
  match v.option? name with
  | some .texts => .ok taken
  | some .path =>
    if p.has name then .error .repeated
    else if value.isEmpty then .error .invalidValue
    else .ok taken
  | _ => if p.has name then .error .repeated else .ok taken

/-- Takes up the option that is pending, if there is one. -/
def settle (v : Verb) (p : Progress) : Except Fault Progress :=
  match p.pending with
  | none => .ok p
  | some (_, none) => .error .invalidValue
  | some (name, some value) => take v { p with pending := none } name value

/-- Takes a positional argument. -/
def place (v : Verb) (p : Progress) (arg : String) : Except Fault Progress :=
  if p.places.length < v.places ∨ v.takesMore then
    (p.settle v).map fun p => { p with places := p.places ++ [arg] }
  else .error .unknownArgument

/-- Takes an argument with two dashes: a name, and a value if there is an equals sign. -/
def long (v : Verb) (p : Progress) (name : String) (value : Option String) :
    Except Fault Progress :=
  if name = "help" then
    match value with
    | some _ => .error .needlessValue
    | none => (p.settle v).bind fun _ => .error .help
  else
    match v.option? name, value with
    | none, _ => .error .unknownArgument
    | some .flag, some _ => .error .needlessValue
    | some .flag, none => (p.settle v).bind fun p => take v p name ""
    | some _, some x => (p.settle v).bind fun p => take v p name x
    | some _, none => (p.settle v).map fun p => { p with pending := some (name, none) }

end Progress

/-- How an argument reads. -/
inductive Shape where
  /-- Two dashes and nothing else. -/
  | rest
  | long (name : String) (value : Option String)
  /-- One dash and then this letter. -/
  | short (letter : Char)
  | plain
  deriving DecidableEq, Repr

/-- Splits at the first equals sign. -/
def splitValue (s : List Char) : String × Option String :=
  (String.ofList (s.takeWhile (· != '=')),
    match s.dropWhile (· != '=') with
    | [] => none
    | _ :: r => some (String.ofList r))

def Shape.ofText (s : List Char) : Shape :=
  match s with
  | ['-', '-'] => .rest
  | '-' :: '-' :: r => .long (splitValue r).1 (splitValue r).2
  | '-' :: c :: _ => .short c
  | _ => .plain

/-- Reads the arguments of a command; the truth value says whether `--` has been read. -/
def scan (v : Verb) : Bool → Progress → List String → Except Fault Progress
  | _, p, [] => p.settle v
  | true, p, a :: as => (p.place v a).bind fun p => scan v true p as
  | false, p, a :: as =>
    match Shape.ofText a.toList with
    | .rest => scan v true p as
    | .long name value => (p.long v name value).bind fun p => scan v false p as
    | .short c =>
      if c = 'h' then (p.settle v).bind fun _ => .error .help else .error .unknownArgument
    | .plain =>
      match p.pending with
      | some (name, none) => scan v false { p with pending := some (name, some a) } as
      | _ => (p.place v a).bind fun p => scan v false p as

namespace Progress

/-- The values of an option, in order. -/
def values (p : Progress) (name : String) : List String :=
  (p.options.filter (·.1 == name)).map (·.2)

/-- The command that has been read. -/
def invocation (v : Verb) (p : Progress) : Except Fault Invocation :=
  match v, p.places with
  | .compile, mask :: _ => .ok (.compile mask)
  | .check, mask :: url :: urls => .ok (.check mask (url :: urls) (p.has "all"))
  | .request, mask :: url :: _ => .ok (.request mask url (p.values "template").head?)
  | .filter, _ => .ok (.filter (p.values "purl") (p.values "input").head?)
  | _, _ => .error .missingArgument

end Progress

/-- The name of the command that gives help. -/
def helpName : String := "help"

def isCommand (s : String) : Bool := s == helpName || (Verb.ofName? s).isSome

/-- Reads what follows the name of the command that gives help: no more than the name of a
command. -/
def readHelp : List String → Fault
  | [] => .help
  | [s] => if isCommand s then .help else .unknownCommand
  | _ => .unknownCommand

/-- Reads all arguments. -/
def read : List String → Except Fault Invocation
  | [] => .error .nothing
  | a :: as =>
    match Verb.ofName? a with
    | some v => (scan v false .start as).bind fun p => p.invocation v
    | none =>
      if a = helpName then .error (readHelp as)
      else
        match Shape.ofText a.toList with
        | .rest =>
          match as with
          | [] => .error .nothing
          | b :: _ => if isCommand b then .error .unknownArgument else .error .unknownCommand
        | .long name value =>
          if name = helpName then
            match value with
            | some _ => .error .needlessValue
            | none => .error .help
          else .error .unknownArgument
        | .short c => if c = 'h' then .error .help else .error .unknownArgument
        | .plain => .error .unknownCommand

end CommandLine

end UrlMask
