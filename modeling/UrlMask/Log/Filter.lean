import UrlMask.Log.Event

/-!
# What the log shows

A filter is a list of directives, each with a level and, if it is not for everything, the parts of
the program it is for: those whose names start with its target. Of the directives for an event
the most specific counts, and of equally specific ones the last.

* `LogFilter.ofText?`: reads a filter.
* `LogFilter.shows`: whether an event is shown.
-/
namespace UrlMask

/-- One rule of a filter. -/
structure Directive where
  /-- How much is shown, none at all being 0. -/
  verbosity : Nat
  /-- The parts of the program that it is for, by the start of their names. -/
  target : Option (List Char) := none
  /-- The span that an event has to be in. -/
  span : Option (List Char) := none
  /-- The fields that an event has to have, with the values that are asked for. -/
  fields : List (List Char × Option (List Char)) := []
  deriving Repr

/-- The directives in the order in which they were given. -/
abbrev LogFilter := List Directive

namespace Directive

/-- The greatest verbosity. -/
def everything : Nat := Level.trace.verbosity

/-- An unsigned number in base ten, perhaps with a plus sign before it. -/
def number? (s : List Char) : Option Nat :=
  let ds := if s.head? = some '+' then s.tail else s
  if ds.isEmpty || !ds.all Char.isDigit then none
  else some (ds.foldl (fun n c => n * 10 + (c.toNat - 48)) 0)

/-- The verbosity of a level that is given by number or name. -/
def verbosity? (s : List Char) : Option Nat :=
  match number? s with
  | some n => if n ≤ everything then some n else none
  | none =>
    let name := String.ofList (s.map Char.toLower)
    if s.isEmpty then some Level.error.verbosity
    else if name = "error" then some Level.error.verbosity
    else if name = "warn" then some Level.warn.verbosity
    else if name = "info" then some Level.info.verbosity
    else if name = "debug" then some Level.debug.verbosity
    else if name = "trace" then some Level.trace.verbosity
    else if name = "off" then some 0
    else none

/-- What is being read of a directive, with the place where it starts. -/
inductive Stage where
  | nothing
  | levelOrTarget (start : Nat)
  | span (start : Nat)
  | field (start : Nat)
  | fieldsDone
  | spanDone
  | level (start : Nat)
  deriving DecidableEq, Repr

/-- The characters of a text between two places. -/
def slice (s : List Char) (i j : Nat) : List Char := (s.drop i).take (j - i)

/-- Reads a field: its name and, behind an equals sign, the regex of its value. -/
def field? (s : List Char) : Option (List Char × Option (List Char)) :=
  if s.isEmpty then none
  else
    let name := s.takeWhile (· != '=')
    match s.dropWhile (· != '=') with
    | [] => some (name, none)
    | _ :: r =>
      let value := r.takeWhile (· != '=')
      match Mask.compile Mask.defaultLimit value with
      | .ok _ => some (name, some value)
      | .error _ => none

/-- Reads on at place `i` of `all`. -/
def readFrom (all : List Char) : Stage → Nat → Directive → List Char → Option Directive
  | stage, _, d, [] =>
    match stage with
    | .levelOrTarget j =>
      match verbosity? (all.drop j) with
      | some n => some { d with verbosity := n }
      | none => some { d with target := some (all.drop j) }
    | .level j =>
      if (all.drop j).isEmpty then some d
      else (verbosity? (all.drop j)).map fun n => { d with verbosity := n }
    | .spanDone => some d
    | _ => none
  | stage, i, d, c :: cs =>
    match stage with
    | .nothing =>
      if c = '[' then readFrom all (.span (i + 1)) (i + 1) d cs
      else if c = '-' ∨ c = ':' ∨ c = '_' ∨ Unicode.isAlphabetic c ∨
          isNumeric c then
        readFrom all (.levelOrTarget i) (i + 1) d cs
      else none
    | .levelOrTarget j =>
      if c = '=' then
        readFrom all (.level (i + 1)) (i + 1) { d with target := some (slice all j i) } cs
      else if c = '[' then
        readFrom all (.span (i + 1)) (i + 1) { d with target := some (slice all j i) } cs
      else readFrom all stage (i + 1) d cs
    | .span j =>
      if c = ']' then readFrom all .spanDone (i + 1) { d with span := some (slice all j i) } cs
      else if c = '\x7b' then
        let name := slice all j i
        readFrom all (.field (i + 1)) (i + 1)
          { d with span := if name.isEmpty then none else some name } cs
      else readFrom all stage (i + 1) d cs
    | .field j =>
      if c = '\x7d' then
        match field? (slice all j i) with
        | some f => readFrom all .fieldsDone (i + 1) { d with fields := d.fields ++ [f] } cs
        | none => none
      else readFrom all stage (i + 1) d cs
    | .fieldsDone => if c = ']' then readFrom all .spanDone (i + 1) d cs else none
    | .spanDone => if c = '=' then readFrom all (.level (i + 1)) (i + 1) d cs else none
    | .level _ => readFrom all stage (i + 1) d cs
where
  /-- Whether the character is a number of any script. -/
  isNumeric (c : Char) : Bool :=
    match Unicode.Category.ofCode c.toNat with
    | .decimalNumber | .letterNumber | .otherNumber => true
    | _ => false

/-- Reads a directive. Without a level it shows everything. -/
def ofText? (s : List Char) : Option Directive :=
  readFrom s .nothing 0 { verbosity := everything } (Text.trim s)

/-- The name of the only field that an event has. -/
def messageField : List Char := "message".toList

/-- Whether the directive is for events of this part of the program. Events are in no span, and
their only field is the message. -/
def covers (d : Directive) (part : List Char) : Bool :=
  d.span.isNone && d.fields.all (fun f => f.2.isNone && f.1 == messageField) &&
    ((d.target.map fun t => t.isPrefixOf part).getD true)

/-- How specific the directive is: the length of its target counts before its fields. -/
def isAtLeast (d e : Directive) : Bool :=
  let length (d : Directive) := (d.target.map fun t => (Utf8.encode t).length + 1).getD 0
  length e < length d || (length e == length d && e.fields.length ≤ d.fields.length)

end Directive

namespace LogFilter

/-- Splits at commas. -/
def pieces : List Char → List (List Char)
  | [] => [[]]
  | c :: cs =>
    match pieces cs with
    | p :: ps => if c = ',' then [] :: p :: ps else (c :: p) :: ps
    | [] => [[c]]

/-- Reads a filter: directives with commas in between. -/
def ofText? (s : List Char) : Option LogFilter :=
  ((pieces s).filter (!·.isEmpty)).mapM Directive.ofText?

/-- The filter where no other is given, or the one that is given cannot be read. -/
def standard : LogFilter :=
  [{ verbosity := Level.info.verbosity },
   { verbosity := Level.debug.verbosity, target := some "purl".toList },
   { verbosity := Level.debug.verbosity, target := some "purl_core".toList }]

/-- The filter that a setting asks for. -/
def ofSetting (s : Option String) : LogFilter :=
  match s with
  | some s => (ofText? s.toList).getD standard
  | none => standard

/-- Of the directives for a part of the program the one that counts, found from the first on. -/
def best : Option Directive → LogFilter → Option Directive
  | b, [] => b
  | none, d :: ds => best (some d) ds
  | some b, d :: ds => best (some (if d.isAtLeast b then d else b)) ds

/-- Whether an event is shown. -/
def shows (f : LogFilter) (e : Event) : Bool :=
  match best none (f.filter (·.covers e.part.toList)) with
  | some d => e.level.verbosity ≤ d.verbosity
  | none => false

end LogFilter

end UrlMask
