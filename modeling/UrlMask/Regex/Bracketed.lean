import UrlMask.Regex.Escape

/-!
# Bracketed classes

`Bracketed.read` reads a class in square brackets: ranges, escapes, named classes, nested
classes and the operators `&&`, `--` and `~~`, which bind less tightly than juxtaposition and
from left to right. The classes that are still open are kept on a stack of frames.
-/
namespace UrlMask.Regex

namespace Bracketed

open Cursor (fail)

/-- The items of a class that stand side by side, latest first. -/
structure Items where
  span : Span
  items : List ClassTree

namespace Items

def start (span : Span) : Items := ⟨span, []⟩

def push (u : Items) (t : ClassTree) : Items :=
  ⟨⟨if u.items.isEmpty then t.span.start else u.span.start, t.span.stop⟩, t :: u.items⟩

def toTree (u : Items) : ClassTree :=
  match u.items with
  | [] => .empty u.span
  | [t] => t
  | ts => .union u.span ts.reverse

end Items

/-- What is open around the items being read. -/
inductive Frame where
  /-- An open bracket, with the items before it. -/
  | bracket (span : Span) (negated : Bool) (outer : Items)
  /-- An operator, with its left side. -/
  | op (kind : SetOp) (lhs : ClassTree)

/-- The fault of a class that never ends: the innermost open bracket is to blame. -/
def unclosed {α : Type} : List Frame → Except Fault α
  | .bracket span _ _ :: _ => fail .classUnclosed span
  | .op _ _ :: fs => unclosed fs
  | [] => fail .classUnclosed ⟨0, 0⟩

/-- Joins the tree with the left side of an operator before it, if there is one. -/
def closeOp (t : ClassTree) : List Frame → ClassTree × List Frame
  | .op kind lhs :: fs => (.op ⟨lhs.span.start, t.span.stop⟩ kind lhs t, fs)
  | fs => (t, fs)

/-- The names between `[:` and `:]`. -/
def posixName : String → Option PosixKind
  | "alnum" => some .alnum
  | "alpha" => some .alpha
  | "ascii" => some .ascii
  | "blank" => some .blank
  | "cntrl" => some .cntrl
  | "digit" => some .digit
  | "graph" => some .graph
  | "lower" => some .lower
  | "print" => some .print
  | "punct" => some .punct
  | "space" => some .space
  | "upper" => some .upper
  | "word" => some .word
  | "xdigit" => some .xdigit
  | _ => none

/-- Reads `[:name:]` or `[:^name:]`. Anything else is left to be read as a nested class. -/
def posix? (c : Cursor) : Option (ClassTree × Cursor) := do
  let inner ← c.eat? "[:"
  let negated := inner.peek == some '^'
  let inner := if negated then inner.advance else inner
  let (name, after) := inner.takeWhile (· != ':')
  let after ← after.eat? ":]"
  let kind ← posixName (String.ofList name)
  some (.posix (after.spanFrom c.pos) kind negated, after)

/-- Reads the hyphens that may stand first in a class. -/
def hyphens (verbose : Bool) (start : Nat) : Nat → Items → Cursor →
    Except Fault (Items × Cursor)
  | 0, u, c => .ok (u, c)
  | fuel + 1, u, c =>
    if c.peek = some '-' then
      let u := u.push (.literal ⟨c.charSpan, '-', false⟩)
      let c := c.advanceSkip verbose
      if c.atEnd then fail .classUnclosed ⟨start, start⟩ else hyphens verbose start fuel u c
    else .ok (u, c)

/-- Reads an opening bracket, a `^`, and the characters that are plain only in first place. -/
def openBracket (verbose : Bool) (frames : List Frame) (outer : Items) (c : Cursor) :
    Except Fault (List Frame × Items × Cursor) := do
  let start := c.pos
  let c := c.advanceSkip verbose
  if c.atEnd then fail .classUnclosed (c.spanFrom start)
  let negated := c.peek == some '^'
  let c := if negated then c.advanceSkip verbose else c
  if c.atEnd then fail .classUnclosed (c.spanFrom start)
  let (u, c) ← hyphens verbose start c.rest.length (.start c.span) c
  if u.items.isEmpty ∧ c.peek = some ']' then
    let u := u.push (.literal ⟨c.charSpan, ']', false⟩)
    let c := c.advanceSkip verbose
    if c.atEnd then fail .classUnclosed (c.spanFrom start)
    .ok (.bracket (c.spanFrom start) negated outer :: frames, u, c)
  else .ok (.bracket (c.spanFrom start) negated outer :: frames, u, c)

/-- A symbol as an item of a class. -/
def itemOf : Symbol → Except Fault ClassTree
  | .literal l => .ok (.literal l)
  | .property p => .ok (.property p)
  | .shorthand p => .ok (.shorthand p)
  | s => fail .classEscapeInvalid s.span

/-- A symbol as the end of a range. -/
def boundOf : Symbol → Except Fault Literal
  | .literal l => .ok l
  | s => fail .classRangeLiteral s.span

/-- Reads a symbol, or a range of two; `ch` is the next character. -/
def item (verbose : Bool) (frames : List Frame) (ch : Char) (c : Cursor) :
    Except Fault (ClassTree × Cursor) := do
  let (lo, c) ← Symbol.readInClass verbose ch c
  let c := c.skip verbose
  if c.atEnd then unclosed frames
  let next := c.peekSkip verbose
  if c.peek != some '-' || next == some ']' || next == some '-' then
    let t ← itemOf lo
    .ok (t, c)
  else
    let c := c.advanceSkip verbose
    match c.peek with
    | none => unclosed frames
    | some ch =>
      let (hi, c) ← Symbol.readInClass verbose ch c
      let span : Span := ⟨lo.span.start, hi.span.stop⟩
      let lo ← boundOf lo
      let hi ← boundOf hi
      if hi.char < lo.char then fail .classRangeInvalid span
      else .ok (.range span lo hi, c)

/-- The outcome of one step: the class is complete, or more is to be read. -/
inductive Step where
  | more (frames : List Frame) (items : Items) (c : Cursor)
  | done (cls : Ast) (c : Cursor)

/-- Puts an operator after the items read so far. -/
def operator (kind : SetOp) (frames : List Frame) (u : Items) (c : Cursor) : Step :=
  let c := c.advance.advance
  let (lhs, frames) := closeOp u.toTree frames
  .more (.op kind lhs :: frames) (.start c.span) c

/-- Reads a closing bracket. -/
def close (frames : List Frame) (u : Items) (c : Cursor) : Except Fault Step :=
  let (body, frames) := closeOp u.toTree frames
  match frames with
  | .bracket span negated outer :: frames =>
    let c := c.advance
    let span := ⟨span.start, c.pos⟩
    if frames.isEmpty then .ok (.done (.bracketed span negated body) c)
    else .ok (.more frames (outer.push (.bracketed span negated body)) c)
  | frames => unclosed frames

/-- Reads the next part of a class. -/
def step (verbose : Bool) (frames : List Frame) (u : Items) (c : Cursor) :
    Except Fault Step := do
  let c := c.skip verbose
  match c.peek with
  | none => unclosed frames
  | some '[' =>
    match (if frames.isEmpty then none else posix? c) with
    | some (t, c) => .ok (.more frames (u.push t) c)
    | none =>
      let (frames, u, c) ← openBracket verbose frames u c
      .ok (.more frames u c)
  | some ']' => close frames u c
  | some ch =>
    if ch = '&' ∧ c.peekSecond = some '&' then .ok (operator .inter frames u c)
    else if ch = '-' ∧ c.peekSecond = some '-' then .ok (operator .diff frames u c)
    else if ch = '~' ∧ c.peekSecond = some '~' then .ok (operator .symmDiff frames u c)
    else
      let (t, c) ← item verbose frames ch c
      .ok (.more frames (u.push t) c)

/-- Reads on until the class is complete. Every step passes a character, so `fuel` characters
are enough. -/
def run (verbose : Bool) : Nat → List Frame → Items → Cursor → Except Fault (Ast × Cursor)
  | 0, frames, _, _ => unclosed frames
  | fuel + 1, frames, u, c =>
    match step verbose frames u c with
    | .error e => .error e
    | .ok (.done cls c) => .ok (cls, c)
    | .ok (.more frames u c) => run verbose fuel frames u c

/-- Reads a class in square brackets. The cursor is at the opening bracket. -/
def read (verbose : Bool) (c : Cursor) : Except Fault (Ast × Cursor) :=
  run verbose (c.rest.length + 1) [] (.start c.span) c

end Bracketed

end UrlMask.Regex
