import UrlMask.Regex.Cursor

/-!
# Single symbols and escapes

`Symbol.read` reads what stands for itself or for a class: a plain character, `.`, `^`, `$`, or
an escape. Bracketed classes use the same escapes through `Symbol.readInClass`.
-/
namespace UrlMask.Regex

/-- A symbol that is neither a group nor a bracketed class. -/
inductive Symbol where
  | literal (lit : Literal)
  | assertion (span : Span) (kind : Assertion)
  | dot (span : Span)
  | property (cls : PropertyClass)
  | shorthand (cls : Shorthand)
  deriving Repr

namespace Symbol

def span : Symbol → Span
  | literal l => l.span
  | assertion s _ => s
  | dot s => s
  | property c => c.span
  | shorthand c => c.span

def toAst : Symbol → Ast
  | literal l => .literal l
  | assertion s k => .assertion s k
  | dot s => .dot s
  | property c => .property c
  | shorthand c => .shorthand c

end Symbol

/-- The characters that have a meaning of their own in a regex. -/
def isMeta (c : Char) : Bool := "\\.+*?()|[]\x7b\x7d^$#&-~".toList.contains c

/-- Whether a backslash before `c` makes it stand for itself. -/
def isEscapable (c : Char) : Bool :=
  isMeta c || (c.toNat < 0x80 && !c.isAlphanum && c != '<' && c != '>')

def isHexDigit (c : Char) : Bool := c.isDigit || ('a' ≤ c && c ≤ 'f') || ('A' ≤ c && c ≤ 'F')

/-- The value of a hexadecimal digit. -/
def hexDigit (c : Char) : Nat :=
  if c.isDigit then c.toNat - '0'.toNat
  else if 'a' ≤ c ∧ c ≤ 'f' then c.toNat - 'a'.toNat + 10
  else c.toNat - 'A'.toNat + 10

def hexValue (digits : List Char) : Nat := digits.foldl (fun n d => n * 16 + hexDigit d) 0

/-- The character of a code point, unless it is a surrogate or too large. -/
def scalar? (n : Nat) : Option Char := if n.isValidChar then some (Char.ofNat n) else none

namespace Escape

open Cursor (fail)

/-- The hexadecimal digits of `\x`, `\u` or `\U` without braces. The cursor is before the digit,
and `count` digits are still to be read. -/
def fixedDigits (verbose : Bool) : Nat → Cursor → Except Fault (List Char × Cursor)
  | 0, c => .ok ([], c)
  | count + 1, c =>
    match c.peek with
    | none => fail .escapeUnexpectedEnd c.span
    | some ch =>
      if isHexDigit ch then do
        let (ds, c') ← fixedDigits verbose count (c.advanceSkip verbose)
        .ok (ch :: ds, c')
      else fail .escapeHexInvalidDigit c.charSpan

/-- The hexadecimal digits of a braced escape, up to the closing brace. `fuel` bounds the number
of characters that are left. -/
def bracedDigits (verbose : Bool) : Nat → Cursor → Except Fault (List Char × Cursor)
  | 0, c => .ok ([], c)
  | fuel + 1, c =>
    match c.peek with
    | none => .ok ([], c)
    | some ch =>
      if ch = '\x7d' then .ok ([], c)
      else if isHexDigit ch then do
        let (ds, c') ← bracedDigits verbose fuel (c.advanceSkip verbose)
        .ok (ch :: ds, c')
      else fail .escapeHexInvalidDigit c.charSpan

/-- The number of digits that `\x`, `\u` and `\U` take. -/
def digitCount (c : Char) : Nat := if c = 'x' then 2 else if c = 'u' then 4 else 8

/-- Reads a hexadecimal escape. The cursor is at the letter, `start` is the backslash. -/
def hex (verbose : Bool) (start : Nat) (letter : Char) (c : Cursor) :
    Except Fault (Symbol × Cursor) := do
  let c := c.advanceSkip verbose
  match c.peek with
  | none => fail .escapeUnexpectedEnd c.span
  | some '\x7b' =>
    let brace := c.pos
    let first := c.advance.pos
    let (ds, c) ← bracedDigits verbose c.rest.length (c.advanceSkip verbose)
    if c.atEnd then fail .escapeUnexpectedEnd (c.spanFrom brace)
    else
      let last := c.pos
      let c := c.advanceSkip verbose
      if ds.isEmpty then fail .escapeHexEmpty (c.spanFrom brace)
      else
        match scalar? (hexValue ds) with
        | none => fail .escapeHexInvalid ⟨first, last⟩
        | some ch => .ok (.literal ⟨c.spanFrom start, ch, false⟩, c)
  | some _ =>
    let first := c.pos
    let (ds, c) ← fixedDigits verbose (digitCount letter) c
    match scalar? (hexValue ds) with
    | none => fail .escapeHexInvalid (c.spanFrom first)
    | some ch => .ok (.literal ⟨c.spanFrom start, ch, letter == 'x'⟩, c)

/-- The text between the braces of `\p`, up to the closing brace. -/
def bracedName (verbose : Bool) : Nat → Cursor → List Char × Cursor
  | 0, c => ([], c)
  | fuel + 1, c =>
    match c.peek with
    | none => ([], c)
    | some ch =>
      if ch = '\x7d' then ([], c)
      else
        let (s, c') := bracedName verbose fuel (c.advanceSkip verbose)
        (ch :: s, c')

/-- The text before and after the first occurrence of `sep`. -/
def splitFirst (sep : List Char) : List Char → Option (List Char × List Char)
  | [] => none
  | c :: r =>
    if sep.isPrefixOf (c :: r) then some ([], (c :: r).drop sep.length)
    else (splitFirst sep r).map fun (a, b) => (c :: a, b)

/-- The query in a text between braces: a name, or a property and a value. -/
def queryOf (s : List Char) : PropertyQuery :=
  match (splitFirst ['!', '='] s).or ((splitFirst [':'] s).or (splitFirst ['='] s)) with
  | some (p, v) => .value (String.ofList p) (String.ofList v)
  | none => .name (String.ofList s)

/-- Whether the query asks for the characters that do not have the value. -/
def isUnequal (s : List Char) : Bool := (splitFirst ['!', '='] s).isSome

/-- Reads `\p` or `\P`. The cursor is at the letter, `start` is the backslash. -/
def property (verbose : Bool) (start : Nat) (negated : Bool) (c : Cursor) :
    Except Fault (Symbol × Cursor) :=
  let c := c.advanceSkip verbose
  match c.peek with
  | none => fail .escapeUnexpectedEnd c.span
  | some '\x7b' =>
    let (s, c) := bracedName verbose c.rest.length (c.advanceSkip verbose)
    if c.atEnd then fail .escapeUnexpectedEnd c.span
    else
      let c := c.advance
      .ok (.property ⟨c.spanFrom start, negated != isUnequal s, queryOf s⟩, c)
  | some '\\' => fail .propertyInvalid c.charSpan
  | some ch =>
    let c := c.advanceSkip verbose
    .ok (.property ⟨c.spanFrom start, negated, .name (String.singleton ch)⟩, c)

/-- The characters that can stand in the name of a word boundary. -/
def isBoundaryChar (c : Char) : Bool := c.isAlpha || c == '-'

/-- The letters of a named word boundary. -/
def boundaryName (verbose : Bool) : Nat → Cursor → List Char × Cursor
  | 0, c => ([], c)
  | fuel + 1, c =>
    match c.peek with
    | none => ([], c)
    | some ch =>
      if isBoundaryChar ch then
        let (s, c') := boundaryName verbose fuel (c.advanceSkip verbose)
        (ch :: s, c')
      else ([], c)

/-- Reads the braces after `\b`, unless they turn out to be a repetition. The cursor is at the
opening brace, `start` is the backslash. -/
def namedBoundary (verbose : Bool) (start : Nat) (c : Cursor) :
    Except Fault (Option (Assertion × Cursor)) :=
  let brace := c.pos
  let c := c.advanceSkip verbose
  match c.peek with
  | none => fail .wordBoundaryOrCountUnexpectedEnd (c.spanFrom start)
  | some ch =>
    if !isBoundaryChar ch then .ok none
    else
      let first := c.pos
      let (s, c) := boundaryName verbose c.rest.length c
      if c.peek != some '\x7d' then fail .wordBoundaryUnclosed (c.spanFrom brace)
      else
        match String.ofList s with
        | "start" => .ok (some (.wordStart, c.advance))
        | "end" => .ok (some (.wordEnd, c.advance))
        | "start-half" => .ok (some (.wordStartHalf, c.advance))
        | "end-half" => .ok (some (.wordEndHalf, c.advance))
        | _ => fail .wordBoundaryUnrecognized (c.spanFrom first)

/-- The character of a one-letter escape such as `\n`. -/
def controlChar : Char → Option Char
  | 'a' => some '\x07'
  | 'f' => some '\x0c'
  | 't' => some '\t'
  | 'n' => some '\n'
  | 'r' => some '\r'
  | 'v' => some '\x0b'
  | _ => none

/-- The assertion of a one-letter escape other than `\b`. -/
def assertion : Char → Option Assertion
  | 'A' => some .startText
  | 'z' => some .endText
  | 'B' => some .notWord
  | '<' => some .wordStart
  | '>' => some .wordEnd
  | _ => none

/-- The class of a one-letter escape. -/
def shorthand : Char → Option (ShorthandKind × Bool)
  | 'd' => some (.digit, false)
  | 's' => some (.space, false)
  | 'w' => some (.word, false)
  | 'D' => some (.digit, true)
  | 'S' => some (.space, true)
  | 'W' => some (.word, true)
  | _ => none

/-- Reads an escape. The cursor is at the backslash. -/
def read (verbose : Bool) (c : Cursor) : Except Fault (Symbol × Cursor) := do
  let start := c.pos
  let c := c.advance
  match c.peek with
  | none => fail .escapeUnexpectedEnd (c.spanFrom start)
  | some ch =>
    if ch.isDigit then fail .backreference (c.advance.spanFrom start)
    else if ch = 'x' ∨ ch = 'u' ∨ ch = 'U' then hex verbose start ch c
    else if ch = 'p' ∨ ch = 'P' then property verbose start (ch == 'P') c
    else
      let c := c.advance
      let span := c.spanFrom start
      match shorthand ch with
      | some (kind, negated) => .ok (.shorthand ⟨span, kind, negated⟩, c)
      | none =>
        if isEscapable ch then .ok (.literal ⟨span, ch, false⟩, c)
        else
          match controlChar ch with
          | some k => .ok (.literal ⟨span, k, false⟩, c)
          | none =>
            match assertion ch with
            | some a => .ok (.assertion span a, c)
            | none =>
              if ch = 'b' then
                if c.peek = some '\x7b' then
                  match ← namedBoundary verbose start c with
                  | some (a, c') => .ok (.assertion (c'.spanFrom start) a, c')
                  | none => .ok (.assertion span .word, c)
                else .ok (.assertion span .word, c)
              else fail .escapeUnrecognized span

end Escape

/-- Reads one symbol outside brackets; `ch` is the next character. -/
def Symbol.read (verbose : Bool) (ch : Char) (c : Cursor) : Except Fault (Symbol × Cursor) :=
  match ch with
  | '\\' => Escape.read verbose c
  | '.' => .ok (.dot c.charSpan, c.advance)
  | '^' => .ok (.assertion c.charSpan .startLine, c.advance)
  | '$' => .ok (.assertion c.charSpan .endLine, c.advance)
  | _ => .ok (.literal ⟨c.charSpan, ch, false⟩, c.advance)

/-- Reads one symbol of a bracketed class; `ch` is the next character. -/
def Symbol.readInClass (verbose : Bool) (ch : Char) (c : Cursor) :
    Except Fault (Symbol × Cursor) :=
  match ch with
  | '\\' => Escape.read verbose c
  | _ => .ok (.literal ⟨c.charSpan, ch, false⟩, c.advance)

end UrlMask.Regex
