import UrlMask.Json.Printer

/-!
# The layout of a mask

A mask is literal text with sections in square brackets. A bracket inside a section only has to
be balanced; where the last section is never closed, the mask ends inside it. The source of a
mask is the regex in which the literal text stands for itself and each section is a group.

* `Layout.ofText`: literal text and sections of a mask.
* `Layout.text`: the mask of a layout.
* `Layout.source`: the regex source of a layout.
-/
namespace UrlMask

/-- The layout of a mask. -/
inductive Layout where
  /-- Literal text up to the end. -/
  | literal (lead : List Char)
  /-- Literal text, and a section that is never closed. -/
  | unclosed (lead tail : List Char)
  /-- Literal text, a section, and what follows it. -/
  | section' (lead body : List Char) (rest : Layout)
  deriving DecidableEq, Repr

namespace Layout

/-- Puts a character at the front of the first piece. -/
def pushFront (c : Char) : List (List Char) → List (List Char)
  | p :: ps => (c :: p) :: ps
  | [] => [[c]]

/-- The pieces of a text between the brackets that open and close sections, inside `depth`
brackets. -/
def pieces (depth : Nat) : List Char → List (List Char)
  | [] => [[]]
  | c :: cs =>
    if c = '[' then
      if depth = 0 then [] :: pieces 1 cs else pushFront c (pieces (depth + 1) cs)
    else if c = ']' ∧ depth ≠ 0 then
      if depth = 1 then [] :: pieces 0 cs else pushFront c (pieces (depth - 1) cs)
    else pushFront c (pieces depth cs)

/-- Literal text and sections take turns. -/
def ofPieces : List (List Char) → Layout
  | [] => .literal []
  | [lead] => .literal lead
  | [lead, tail] => .unclosed lead tail
  | lead :: body :: next :: rest => .section' lead body (ofPieces (next :: rest))

def ofText (s : List Char) : Layout := ofPieces (pieces 0 s)

/-- The mask that has this layout. -/
def text : Layout → List Char
  | literal l => l
  | unclosed l t => l ++ '[' :: t
  | section' l b r => l ++ '[' :: (b ++ ']' :: r.text)

/-! ## The source -/

/-- The hexadecimal digits of a number, in lower case. -/
def hexDigits (n : Nat) : List Char := Nat.toDigits 16 n

/-- A literal character as a regex: letters and digits of ASCII stand for themselves, any other
is written by its code point. -/
def escapeChar (c : Char) : List Char :=
  if c.isAlphanum then [c]
  else if c.toNat ≤ 0xFF then
    ['\\', 'x', Json.hexChar (c.toNat / 16), Json.hexChar (c.toNat % 16)]
  else ['\\', 'x', '\x7b'] ++ hexDigits c.toNat ++ ['\x7d']

def escape (s : List Char) : List Char := s.flatMap escapeChar

/-- What opens the group of a section. -/
def groupOpen : List Char := ['(', '?', ':']

/-- The source without its anchors. -/
def body : Layout → List Char
  | literal l => escape l
  | unclosed l t => escape l ++ groupOpen ++ t
  | section' l b r => escape l ++ groupOpen ++ b ++ ')' :: r.body

/-- The regex source, anchored at both ends. -/
def source (l : Layout) : List Char := '^' :: (l.body ++ ['$'])

end Layout

end UrlMask
