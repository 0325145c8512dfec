import UrlMask.Text.Blank
import UrlMask.Regex.Fault

/-!
# Reading a pattern

A cursor is a place in a pattern: how many characters lie before it, and those that follow. In
verbose patterns blanks and comments between the parts of a regex are passed over.
-/
namespace UrlMask.Regex

/-- A place in a pattern. -/
structure Cursor where
  /-- The number of characters before it. -/
  pos : Nat
  /-- The characters after it. -/
  rest : List Char
  deriving DecidableEq, Repr

namespace Cursor

/-- The next character. -/
def peek (c : Cursor) : Option Char := c.rest.head?

/-- The character after the next. -/
def peekSecond (c : Cursor) : Option Char := c.rest.tail.head?

def atEnd (c : Cursor) : Bool := c.rest.isEmpty

/-- Past the next character, if there is one. -/
def advance : Cursor → Cursor
  | ⟨p, []⟩ => ⟨p, []⟩
  | ⟨p, _ :: r⟩ => ⟨p + 1, r⟩

/-- The empty span here. -/
def span (c : Cursor) : Span := ⟨c.pos, c.pos⟩

/-- The span of the next character. -/
def charSpan (c : Cursor) : Span := ⟨c.pos, c.advance.pos⟩

/-- The span from a place to this one. -/
def spanFrom (start : Nat) (c : Cursor) : Span := ⟨start, c.pos⟩

def fail {α : Type} (cause : Cause) (span : Span) : Except Fault α := .error ⟨cause, span⟩

/-- Past blanks and comments; a comment runs from `#` to the end of the line. -/
def skipFrom (comment : Bool) (pos : Nat) : List Char → Cursor
  | [] => ⟨pos, []⟩
  | ch :: r =>
    if comment then skipFrom (ch != '\n') (pos + 1) r
    else if Text.isBlank ch then skipFrom false (pos + 1) r
    else if ch = '#' then skipFrom true (pos + 1) r
    else ⟨pos, ch :: r⟩

/-- Past blanks and comments, in a verbose pattern. -/
def skip (verbose : Bool) (c : Cursor) : Cursor :=
  if verbose then skipFrom false c.pos c.rest else c

/-- Past the next character and, in a verbose pattern, blanks and comments. -/
def advanceSkip (verbose : Bool) (c : Cursor) : Cursor := c.advance.skip verbose

/-- Past `word`, if the pattern goes on with it. -/
def eat? (word : String) (c : Cursor) : Option Cursor :=
  go word.toList c
where
  go : List Char → Cursor → Option Cursor
    | [], c => some c
    | w :: ws, ⟨p, ch :: r⟩ => if w = ch then go ws ⟨p + 1, r⟩ else none
    | _ :: _, ⟨_, []⟩ => none

/-- The first character after the next one that is not passed over. A comment sign opens a
comment whose text is not passed over. -/
def peekSkip (verbose : Bool) (c : Cursor) : Option Char :=
  if verbose then go false c.rest.tail c.rest.tail else c.peekSecond
where
  go (comment : Bool) (whole : List Char) : List Char → Option Char
    | [] => whole.head?
    | ch :: r =>
      if Text.isBlank ch then go comment whole r
      else if !comment && ch == '#' then go true whole r
      else some ch

/-- Past every character that satisfies `p`; also gives those characters. -/
def takeWhile (p : Char → Bool) (c : Cursor) : List Char × Cursor :=
  let taken := c.rest.takeWhile p
  (taken, ⟨c.pos + taken.length, c.rest.dropWhile p⟩)

end Cursor

end UrlMask.Regex
