import UrlMask.Url.Percent
import UrlMask.Text.Order

/-!
# Query pairs

A query is read as pairs of a name and a value, separated by `&`; the value begins after the
first `=` and is empty if there is none. Empty pieces are no pairs. `+` stands for a blank.

* `Form.pairs`: the pairs of a query.
* `Form.write`: the query of some pairs.
-/
namespace UrlMask.Form

/-- A name and its value. -/
abbrev Pair := List Char × List Char

/-- The pieces of a text between separators. -/
def splitOn (sep : Char) : List Char → List (List Char)
  | [] => [[]]
  | c :: r =>
    if c = sep then [] :: splitOn sep r
    else
      match splitOn sep r with
      | p :: ps => (c :: p) :: ps
      | [] => [[c]]

/-- The text before the first separator, and the text after it. -/
def cut (sep : Char) : List Char → List Char × List Char
  | [] => ([], [])
  | c :: r => if c = sep then ([], r) else ((cut sep r).map (c :: ·) id)

/-- The bytes of a name or value as it stands in a query. -/
def rawBytes (s : List Char) : List UInt8 :=
  Percent.decodeBytes ((Utf8.encode s).map fun b => if b = 0x2B then 0x20 else b)

def decode (s : List Char) : List Char := Utf8.decodeLossy (rawBytes s)

/-- The pieces of a query that are pairs. -/
def pieces (query : List Char) : List (List Char) :=
  (splitOn '&' query).filter fun p => !p.isEmpty

def pairs (query : List Char) : List Pair :=
  (pieces query).map fun p => ((cut '=' p).map decode decode)

/-- The characters that stand for themselves. -/
def isPlain (c : Char) : Bool :=
  c.isAlphanum || c == '*' || c == '-' || c == '.' || c == '_'

def encodeChar (c : Char) : List Char :=
  if isPlain c then [c]
  else if c = ' ' then ['+']
  else (String.utf8EncodeChar c).flatMap Percent.encodeByte

def encode (s : List Char) : List Char := s.flatMap encodeChar

def writePair (p : Pair) : List Char := encode p.1 ++ '=' :: encode p.2

def write : List Pair → List Char
  | [] => []
  | [p] => writePair p
  | p :: ps => writePair p ++ '&' :: write ps

/-- Whether the pair comes no later than the other, by name and then by value. -/
def ordered (p q : Pair) : Bool :=
  Text.precedes p.1 q.1 || (p.1 == q.1 && !Text.precedes q.2 p.2)

end UrlMask.Form
