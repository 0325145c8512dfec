import UrlMask.Regex.Bracketed
import UrlMask.Regex.Group

/-!
# Reading a regex

`Ast.parse` reads a whole pattern. The reader keeps a stack of the groups that are open; each
step reads one symbol, bracketed class, repetition operator, bar or round bracket. A pattern
that is nested more deeply than `nestLimit` is refused at the end.

* `Ast.parse`: the syntax tree and the names of the capture groups, or the first fault.
-/
namespace UrlMask.Regex

/-- The greatest depth of nesting that is accepted. -/
def nestLimit : Nat := 250

namespace Parser

open Cursor (fail)

/-- What was read inside one pair of round brackets, or outside all of them. -/
structure Level where
  /-- Where the level begins. -/
  start : Nat
  /-- The finished branches of an alternation, latest first. -/
  branches : List Ast
  /-- Where the branch being read begins. -/
  branchStart : Nat
  /-- The items of the branch being read, latest first. -/
  items : List Ast

namespace Level

def begin' (pos : Nat) : Level := ⟨pos, [], pos, []⟩

def push (l : Level) (a : Ast) : Level := { l with items := a :: l.items }

/-- The branch being read, as a tree that ends at `pos`. -/
def branch (l : Level) (pos : Nat) : Ast :=
  match l.items with
  | [] => .empty ⟨l.branchStart, pos⟩
  | [a] => a
  | as => .concat ⟨l.branchStart, pos⟩ as.reverse

/-- Ends the branch at the bar at `pos`. -/
def nextBranch (l : Level) (pos : Nat) : Level :=
  ⟨l.start, l.branch pos :: l.branches, pos + 1, []⟩

/-- The whole level, as a tree that ends at `pos`. -/
def toAst (l : Level) (pos : Nat) : Ast :=
  match l.branches with
  | [] => l.branch pos
  | bs => .alternation ⟨l.start, pos⟩ (l.branch pos :: bs).reverse

end Level

/-- A group that is still open. -/
structure Open where
  span : Span
  kind : GroupKind
  /-- What was read before it, one level further out. -/
  outer : Level
  /-- Whether the pattern was verbose before it. -/
  verbose : Bool

/-- The state of the reader between two steps. -/
structure State where
  verbose : Bool
  groups : List Open
  level : Level
  names : Group.Names

def State.init : State := ⟨false, [], Level.begin' 0, ⟨0, []⟩⟩

/-- The state that the verbose flag is set to, if it is set. -/
def verboseOf (s : FlagSetting) : Option Bool := (s.find? (·.1 == .verbose)).map (·.2)

/-- Reads an opening round bracket. -/
def openGroup (s : State) (c : Cursor) : Except Fault (State × Cursor) := do
  let (head, names, c) ← Group.readOpen s.verbose s.names c
  match head with
  | .setFlags span setting =>
    .ok ({ s with
      verbose := (verboseOf setting).getD s.verbose
      level := s.level.push (.flags span setting)
      names := names }, c)
  | .opened span kind =>
    let flags := match kind with
      | .plain setting => verboseOf setting
      | .capture _ _ => none
    .ok ({
      verbose := flags.getD s.verbose
      groups := ⟨span, kind, s.level, s.verbose⟩ :: s.groups
      level := .begin' c.pos
      names := names }, c)

/-- Reads a closing round bracket. -/
def closeGroup (s : State) (c : Cursor) : Except Fault (State × Cursor) :=
  match s.groups with
  | [] => fail .groupUnopened c.charSpan
  | g :: gs =>
    let after := c.advance
    let node := Ast.group ⟨g.span.start, after.pos⟩ g.kind (s.level.toAst c.pos)
    .ok ({ s with verbose := g.verbose, groups := gs, level := g.outer.push node }, after)

/-- Splits off the item that a repetition operator at `c` applies to. -/
def repeated (s : State) (c : Cursor) : Except Fault (Ast × State) :=
  match s.level.items with
  | [] => fail .repetitionMissing c.span
  | a :: as =>
    if a.isRepeatable then .ok (a, { s with level := { s.level with items := as } })
    else fail .repetitionMissing c.span

/-- Reads the mark of a repetition that prefers to match little. -/
def lazyMark (c : Cursor) : Bool × Cursor :=
  if c.peek = some '?' then (false, c.advance) else (true, c)

def pushRepetition (s : State) (body : Ast) (min : Nat) (max : Option Nat) (greedy : Bool)
    (c : Cursor) : State :=
  { s with
    level := s.level.push (.repetition ⟨body.span.start, c.pos⟩ min max greedy body) }

/-- Reads one of `?`, `*` and `+`. -/
def repeatPlain (min : Nat) (max : Option Nat) (s : State) (c : Cursor) :
    Except Fault (State × Cursor) := do
  let (body, s) ← repeated s c
  let (greedy, c) := lazyMark c.advance
  .ok (pushRepetition s body min max greedy c, c)

/-- The digits of a number; blanks and comments between them are passed over in verbose mode. -/
def digits (verbose : Bool) : Nat → Cursor → List Char × Cursor
  | 0, c => ([], c)
  | fuel + 1, c =>
    match c.peek with
    | some ch =>
      if ch.isDigit then
        let (ds, c') := digits verbose fuel (c.advanceSkip verbose)
        (ch :: ds, c')
      else ([], c)
    | none => ([], c)

/-- Past blanks, and in verbose mode past comments that follow a blank. -/
def blanks (verbose : Bool) : Nat → Cursor → Cursor
  | 0, c => c
  | fuel + 1, c =>
    match c.peek with
    | some ch => if Text.isBlank ch then blanks verbose fuel (c.advanceSkip verbose) else c
    | none => c

/-- Reads a number below 2^32, and the blanks around it. The cursor is given back also when
there is no number. -/
def decimal (verbose : Bool) (c : Cursor) : Except Fault Nat × Cursor :=
  let c := (c.takeWhile Text.isBlank).2
  let start := c.pos
  let (ds, c) := digits verbose c.rest.length c
  let span := c.spanFrom start
  let c := blanks verbose c.rest.length c
  let n := ds.foldl (fun n d => n * 10 + (d.toNat - '0'.toNat)) 0
  if ds.isEmpty then (fail .countDecimalEmpty span, c)
  else if n < Nat.pow 2 32 then (.ok n, c)
  else (fail .decimalInvalid span, c)

/-- Reads a counted repetition. The cursor is at the opening brace. -/
def repeatCounted (s : State) (c : Cursor) : Except Fault (State × Cursor) := do
  let v := s.verbose
  let start := c.pos
  let (body, s) ← repeated s c
  let c := c.advanceSkip v
  if c.atEnd then fail .countUnclosed (c.spanFrom start)
  let (first, c) := decimal v c
  if c.atEnd then fail .countUnclosed (c.spanFrom start)
  let (min, max, c) ←
    if c.peek = some ',' then do
      let c := c.advanceSkip v
      if c.atEnd then fail .countUnclosed (c.spanFrom start)
      if c.peek = some '\x7d' then do
        let n ← first
        pure (n, none, c)
      else do
        let n ← first
        let (second, c) := decimal v c
        let m ← second
        pure (n, some m, c)
    else do
      let n ← first
      pure (n, some n, c)
  if c.peek != some '\x7d' then fail .countUnclosed (c.spanFrom start)
  let (greedy, c) := lazyMark (c.advanceSkip v)
  if max.any (· < min) then fail .countInvalid (c.spanFrom start)
  .ok (pushRepetition s body min max greedy c, c)

/-- Reads the next part of the pattern; `ch` is the next character. -/
def step (s : State) (ch : Char) (c : Cursor) : Except Fault (State × Cursor) :=
  match ch with
  | '(' => openGroup s c
  | ')' => closeGroup s c
  | '|' => .ok ({ s with level := s.level.nextBranch c.pos }, c.advance)
  | '[' => do
    let (cls, c) ← Bracketed.read s.verbose c
    .ok ({ s with level := s.level.push cls }, c)
  | '?' => repeatPlain 0 (some 1) s c
  | '*' => repeatPlain 0 none s c
  | '+' => repeatPlain 1 none s c
  | '\x7b' => repeatCounted s c
  | _ => do
    let (sym, c) ← Symbol.read s.verbose ch c
    .ok ({ s with level := s.level.push sym.toAst }, c)

/-- Reads on to the end. Every step passes a character, so `fuel` characters are enough. -/
def run : Nat → State → Cursor → Except Fault (State × Cursor)
  | 0, s, c => .ok (s, c)
  | fuel + 1, s, c =>
    let c := c.skip s.verbose
    match c.rest with
    | [] => .ok (s, c)
    | ch :: _ =>
      match step s ch c with
      | .error e => .error e
      | .ok (s, c) => run fuel s c

/-- The tree of everything read, if every group is closed. -/
def finish (s : State) (c : Cursor) : Except Fault Ast :=
  match s.groups with
  | [] => .ok (s.level.toAst c.pos)
  | g :: _ => fail .groupUnclosed g.span

end Parser

/-- A pattern as read: its tree, and the names of its capture groups. -/
structure Parsed where
  ast : Ast
  /-- The names that occur, each with its group. -/
  names : List (Nat × String)

/-- The capture groups of a tree that have names. -/
def Ast.groupNames : Ast → List (Nat × String)
  | .repetition _ _ _ _ body => body.groupNames
  | .group _ (.capture i (some n)) body => (i, n) :: body.groupNames
  | .group _ _ body => body.groupNames
  | .alternation _ bs => list bs
  | .concat _ items => list items
  | _ => []
where
  list : List Ast → List (Nat × String)
    | [] => []
    | a :: as => a.groupNames ++ list as

/-- Reads a pattern. -/
def Parsed.ofText (pattern : List Char) : Except Fault Parsed := do
  let (s, c) ← Parser.run (pattern.length + 1) .init ⟨0, pattern⟩
  let ast ← Parser.finish s c
  match ast.tooDeep nestLimit 0 with
  | some span => .error ⟨.nestLimitExceeded nestLimit, span⟩
  | none => .ok ⟨ast, ast.groupNames⟩

end UrlMask.Regex
