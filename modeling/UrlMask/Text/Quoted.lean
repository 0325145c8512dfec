import UrlMask.Unicode.Category
import UrlMask.Unicode.Property

/-!
# Text in quotation marks, for the reader's eye

A quoted text shows every character: quotation marks, backslashes and the usual control characters
have short escapes, and whatever would not print by itself is written by its code point. Marks
that would sit on the character before them do not print by themselves.

* `Text.quoted`: the text in quotation marks.
-/
namespace UrlMask.Text

open Unicode

/-- Whether the character prints: it has a category of visible characters, or is the plain
blank. -/
def isPrintable (c : Char) : Bool :=
  c == ' ' ||
    match Category.ofCode c.toNat with
    | .spaceSeparator | .lineSeparator | .paragraphSeparator | .control | .format | .surrogate
    | .privateUse | .unassigned => false
    | _ => true

/-- Whether the character prints by itself. -/
def isVisible (c : Char) : Bool :=
  if c.toNat < 0x7F then 0x20 ≤ c.toNat
  else isPrintable c && !Property.graphemeExtend.has c

/-- A character as it stands in a quoted text. -/
def quoteChar (c : Char) : List Char :=
  if c = '\x00' then ['\\', '0']
  else if c = '\t' then ['\\', 't']
  else if c = '\r' then ['\\', 'r']
  else if c = '\n' then ['\\', 'n']
  else if c = '"' then ['\\', '"']
  else if c = '\\' then ['\\', '\\']
  else if isVisible c then [c]
  else ['\\', 'u', '\x7b'] ++ Nat.toDigits 16 c.toNat ++ ['\x7d']

def quoted (s : List Char) : List Char := '"' :: (s.flatMap quoteChar ++ ['"'])

end UrlMask.Text
