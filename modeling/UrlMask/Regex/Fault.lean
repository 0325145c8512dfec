import UrlMask.Regex.Ast

/-!
# What can be wrong with a regex

`Fault` is a cause and the span it lies in; `Fault.display` shows the pattern with the span
marked and names the cause. A pattern of several lines is shown between rules, with line
numbers.
-/
namespace UrlMask.Regex

/-- The causes for which a pattern is refused. -/
inductive Cause where
  | classEscapeInvalid
  | classRangeInvalid
  | classRangeLiteral
  | classUnclosed
  | decimalEmpty
  | decimalInvalid
  | escapeHexEmpty
  | escapeHexInvalid
  | escapeHexInvalidDigit
  | escapeUnexpectedEnd
  | escapeUnrecognized
  | flagDanglingNegation
  | flagDuplicate (earlier : Span)
  | flagRepeatedNegation (earlier : Span)
  | flagUnexpectedEnd
  | flagUnrecognized
  | groupNameDuplicate (earlier : Span)
  | groupNameEmpty
  | groupNameInvalid
  | groupNameUnexpectedEnd
  | groupUnclosed
  | groupUnopened
  | nestLimitExceeded (limit : Nat)
  | countInvalid
  | countDecimalEmpty
  | countUnclosed
  | repetitionMissing
  | wordBoundaryUnclosed
  | wordBoundaryUnrecognized
  | wordBoundaryOrCountUnexpectedEnd
  | propertyInvalid
  | backreference
  | lookAround
  | unicodeNotAllowed
  | invalidUtf8
  | propertyNotFound
  | propertyValueNotFound
  deriving DecidableEq, Repr

namespace Cause

def message : Cause → String
  | classEscapeInvalid => "invalid escape sequence found in character class"
  | classRangeInvalid => "invalid character class range, the start must be <= the end"
  | classRangeLiteral => "invalid range boundary, must be a literal"
  | classUnclosed => "unclosed character class"
  | decimalEmpty => "decimal literal empty"
  | decimalInvalid => "decimal literal invalid"
  | escapeHexEmpty => "hexadecimal literal empty"
  | escapeHexInvalid => "hexadecimal literal is not a Unicode scalar value"
  | escapeHexInvalidDigit => "invalid hexadecimal digit"
  | escapeUnexpectedEnd => "incomplete escape sequence, reached end of pattern prematurely"
  | escapeUnrecognized => "unrecognized escape sequence"
  | flagDanglingNegation => "dangling flag negation operator"
  | flagDuplicate _ => "duplicate flag"
  | flagRepeatedNegation _ => "flag negation operator repeated"
  | flagUnexpectedEnd => "expected flag but got end of regex"
  | flagUnrecognized => "unrecognized flag"
  | groupNameDuplicate _ => "duplicate capture group name"
  | groupNameEmpty => "empty capture group name"
  | groupNameInvalid => "invalid capture group character"
  | groupNameUnexpectedEnd => "unclosed capture group name"
  | groupUnclosed => "unclosed group"
  | groupUnopened => "unopened group"
  | nestLimitExceeded limit =>
    s!"exceed the maximum number of nested parentheses/brackets ({limit})"
  | countInvalid => "invalid repetition count range, the start must be <= the end"
  | countDecimalEmpty => "repetition quantifier expects a valid decimal"
  | countUnclosed => "unclosed counted repetition"
  | repetitionMissing => "repetition operator missing expression"
  | wordBoundaryUnclosed =>
    "special word boundary assertion is either unclosed or contains an invalid character"
  | wordBoundaryUnrecognized =>
    "unrecognized special word boundary assertion, valid choices are: start, end, start-half " ++
      "or end-half"
  | wordBoundaryOrCountUnexpectedEnd =>
    "found either the beginning of a special word boundary or a bounded repetition on a \\b " ++
      "with an opening brace, but no closing brace"
  | propertyInvalid => "invalid Unicode character class"
  | backreference => "backreferences are not supported"
  | lookAround => "look-around, including look-ahead and look-behind, is not supported"
  | unicodeNotAllowed => "Unicode not allowed here"
  | invalidUtf8 => "pattern can match invalid UTF-8"
  | propertyNotFound => "Unicode property not found"
  | propertyValueNotFound => "Unicode property value not found"

/-- An earlier span that the cause refers to. -/
def related : Cause → Option Span
  | flagDuplicate s | flagRepeatedNegation s | groupNameDuplicate s => some s
  | _ => none

end Cause

/-- A cause, and the span of the pattern where it shows. -/
structure Fault where
  cause : Cause
  span : Span
  deriving DecidableEq, Repr

/-! ## Showing a fault in its pattern -/

/-- A place in a text: line and column, both from 1. -/
structure Place where
  line : Nat
  column : Nat
  deriving DecidableEq, Repr

namespace Place

/-- The place after `n` characters of a text that starts at `p`. -/
def advance (p : Place) : Nat → List Char → Place
  | 0, _ => p
  | _, [] => p
  | n + 1, c :: cs =>
    advance (if c = '\n' then ⟨p.line + 1, 1⟩ else ⟨p.line, p.column + 1⟩) n cs

def ofIndex (text : List Char) (n : Nat) : Place := advance ⟨1, 1⟩ n text

end Place

/-- The lines of a text, without their ends. A carriage return before a newline belongs to the
line end, and a newline at the very end starts no line. -/
def linesOf (text : List Char) : List (List Char) :=
  go [] text
where
  /-- `line` is the line read so far, in reverse. -/
  go (line : List Char) : List Char → List (List Char)
    | [] => if line.isEmpty then [] else [line.reverse]
    | '\n' :: cs =>
      (match line with
        | '\r' :: l => l.reverse
        | l => l.reverse) :: go [] cs
    | c :: cs => go (c :: line) cs

/-- A span of one line, as the columns it covers. -/
structure Mark where
  line : Nat
  start : Nat
  stop : Nat

/-- The row of carets under a line, for marks in order of column. `pos` columns are written. -/
def carets (pos : Nat) : List Mark → String
  | [] => ""
  | m :: ms =>
    let pad := m.start - 1 - pos
    let len := max 1 (m.stop - m.start)
    "".pushn ' ' pad ++ "".pushn '^' len ++ carets (pos + pad + len) ms

/-- The line number, right-aligned in `width` columns. -/
def padLeft (width : Nat) (s : String) : String := "".pushn ' ' (width - s.length) ++ s

/-- Each line of the pattern with its indentation or number, and the carets below it. -/
def annotate (width : Nat) (marks : List Mark) (n : Nat) : List (List Char) → String
  | [] => ""
  | l :: ls =>
    let here := marks.filter (·.line == n)
    let lead := if width = 0 then "    " else padLeft width (toString n) ++ ": "
    let below :=
      if here.isEmpty then "" else "".pushn ' ' (if width = 0 then 4 else width + 2) ++
        carets 0 here ++ "\n"
    lead ++ String.ofList l ++ "\n" ++ below ++ annotate width marks (n + 1) ls

/-- The pattern with the fault marked, and the cause. -/
def Fault.display (f : Fault) (pattern : List Char) : String :=
  let lines := linesOf pattern
  let count := lines.length + (if pattern.getLast? = some '\n' then 1 else 0)
  let width := if count ≤ 1 then 0 else (toString count).length
  let spans := f.span :: f.cause.related.toList
  let placed := spans.map fun s => (Place.ofIndex pattern s.start, Place.ofIndex pattern s.stop)
  let sorted := placed.mergeSort fun a b =>
    a.1.line < b.1.line || (a.1.line == b.1.line && a.1.column ≤ b.1.column)
  let marks := (sorted.filter fun p => p.1.line == p.2.line).map fun p =>
    Mark.mk p.1.line p.1.column p.2.column
  let long := sorted.filter fun p => p.1.line != p.2.line
  let shown := annotate width marks 1 lines
  if pattern.contains '\n' then
    let rule := "".pushn '~' 79 ++ "\n"
    let notes := long.map fun p =>
      s!"on line {p.1.line} (column {p.1.column}) through line {p.2.line} (column {p.2.column - 1})"
    let noted := if notes.isEmpty then "" else "\n".intercalate notes ++ "\n"
    "regex parse error:\n" ++ rule ++ shown ++ rule ++ noted ++ "error: " ++ f.cause.message
  else "regex parse error:\n" ++ shown ++ "error: " ++ f.cause.message

end UrlMask.Regex
