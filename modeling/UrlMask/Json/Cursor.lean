/-!
# Places in a JSON text

Faults are reported by line and column. Lines count from 1; the column is the number of bytes
since the last newline.
-/
namespace UrlMask.Json

/-- A place in a text, as line and bytes since the last newline. -/
structure Place where
  line : Nat
  column : Nat
  deriving DecidableEq, Repr

/-- A place in a text and the characters that follow it. -/
structure Cursor where
  place : Place
  rest : List Char
  deriving DecidableEq, Repr

/-- The place after a character. -/
def Place.after (p : Place) (c : Char) : Place :=
  if c = '\n' then ⟨p.line + 1, 0⟩ else ⟨p.line, p.column + c.utf8Size⟩

namespace Cursor

def ofText (text : List Char) : Cursor := ⟨⟨1, 0⟩, text⟩

def peek (c : Cursor) : Option Char := c.rest.head?

/-- Past the next character, if there is one. -/
def advance : Cursor → Cursor
  | ⟨p, []⟩ => ⟨p, []⟩
  | ⟨p, ch :: r⟩ => ⟨p.after ch, r⟩

/-- The place `n` bytes further on, if the text goes on so far. -/
def placeAfter (c : Cursor) (n : Nat) : Place :=
  go n c.place c.rest
where
  go : Nat → Place → List Char → Place
    | 0, p, _ => p
    | _, p, [] => p
    | n + 1, p, ch :: r =>
      if ch = '\n' then go n ⟨p.line + 1, 0⟩ r
      else if ch.utf8Size ≤ n + 1 then go (n + 1 - ch.utf8Size) (p.after ch) r
      else ⟨p.line, p.column + (n + 1)⟩
  termination_by n => n
  decreasing_by
    · omega
    · have := ch.utf8Size_pos
      omega

/-- The place at which the next byte is to blame. -/
def blame (c : Cursor) : Place := c.placeAfter 1

/-- Whether the character is a blank of JSON. -/
def isBlank (c : Char) : Bool := c == ' ' || c == '\n' || c == '\t' || c == '\r'

/-- Past the blanks. -/
def skipFrom (p : Place) : List Char → Cursor
  | [] => ⟨p, []⟩
  | c :: r => if isBlank c then skipFrom (p.after c) r else ⟨p, c :: r⟩

def skip (c : Cursor) : Cursor := skipFrom c.place c.rest

end Cursor

end UrlMask.Json
