import UrlMask.Json.Value

/-!
# Writing JSON

`Json.compact` writes a value without blanks, `Json.pretty` with one item a line, indented by two
blanks a level. Both escape the same characters.
-/
namespace UrlMask.Json

/-- A hexadecimal digit, in lower case. -/
def hexChar (n : Nat) : Char := if n < 10 then Char.ofNat (48 + n) else Char.ofNat (87 + n)

/-- A character as it stands between quotation marks. -/
def escape (c : Char) : List Char :=
  if c = '"' then ['\\', '"']
  else if c = '\\' then ['\\', '\\']
  else if c = '\n' then ['\\', 'n']
  else if c = '\r' then ['\\', 'r']
  else if c = '\t' then ['\\', 't']
  else if c = '\x08' then ['\\', 'b']
  else if c = '\x0c' then ['\\', 'f']
  else if c.toNat < 0x20 then
    ['\\', 'u', '0', '0', hexChar (c.toNat / 16), hexChar (c.toNat % 16)]
  else [c]

/-- A text in quotation marks. -/
def quoted (s : List Char) : List Char := '"' :: (s.flatMap escape ++ ['"'])

/-- An integer in base ten. -/
def integerText (n : Int) : List Char :=
  if n < 0 then '-' :: decimalDigits n.natAbs else decimalDigits n.natAbs

/-- A value that is neither an array nor an object. -/
def scalar : Json → List Char
  | null => ['n', 'u', 'l', 'l']
  | bool true => ['t', 'r', 'u', 'e']
  | bool false => ['f', 'a', 'l', 's', 'e']
  | integer n => integerText n
  | float x => x.text
  | string s => quoted s.toList
  | array _ | object _ => []

/-- The value without blanks. -/
def compact : Json → List Char
  | array l => '[' :: (items l ++ [']'])
  | object m => '\x7b' :: (members m ++ ['\x7d'])
  | j => j.scalar
where
  items : List Json → List Char
    | [] => []
    | [j] => j.compact
    | j :: js => j.compact ++ ',' :: items js
  members : List (String × Json) → List Char
    | [] => []
    | [(k, j)] => quoted k.toList ++ ':' :: j.compact
    | (k, j) :: ms => quoted k.toList ++ ':' :: (j.compact ++ ',' :: members ms)

/-- A new line at this depth. -/
def newline (depth : Nat) : List Char := '\n' :: List.replicate (2 * depth) ' '

/-- The value with one item a line; `depth` is the number of brackets around it. -/
def prettyAt (depth : Nat) : Json → List Char
  | array [] => ['[', ']']
  | array l => '[' :: (items (depth + 1) l ++ newline depth ++ [']'])
  | object [] => ['\x7b', '\x7d']
  | object m => '\x7b' :: (members (depth + 1) m ++ newline depth ++ ['\x7d'])
  | j => j.scalar
where
  items (depth : Nat) : List Json → List Char
    | [] => []
    | [j] => newline depth ++ j.prettyAt depth
    | j :: js => newline depth ++ j.prettyAt depth ++ ',' :: items depth js
  members (depth : Nat) : List (String × Json) → List Char
    | [] => []
    | [(k, j)] => newline depth ++ quoted k.toList ++ ':' :: ' ' :: j.prettyAt depth
    | (k, j) :: ms =>
      newline depth ++ quoted k.toList ++
        ':' :: ' ' :: (j.prettyAt depth ++ ',' :: members depth ms)

def pretty (j : Json) : List Char := j.prettyAt 0

end UrlMask.Json
