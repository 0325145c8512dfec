import UrlMask.Url.Form

/-!
# Paths

A hierarchical path is a list of segments, each written behind a slash. While a path is read,
segments that mean "here" and "one level up" are worked off; a drive letter is not left that way.

* `Path.pieces`, `Path.segments`: the pieces of a text, and the segments of a path of them.
* `Path.trimmed`: the segments without empty ones at the end.
-/
namespace UrlMask.Url.Path

/-- Whether a segment means the same level. -/
def isHere (s : List Char) : Bool :=
  let t := s.map Char.toLower
  t == ['.'] || t == ['%', '2', 'e']

/-- Whether a segment means the level above. -/
def isUp (s : List Char) : Bool :=
  let t := s.map Char.toLower
  t == ['.', '.'] || t == ['.', '%', '2', 'e'] || t == ['%', '2', 'e', '.'] ||
    t == ['%', '2', 'e', '%', '2', 'e']

/-- A letter and a colon or bar. -/
def isDrive (s : List Char) : Bool :=
  match s with
  | [a, b] => a.isAlpha && (b == ':' || b == '|')
  | _ => false

/-- Whether a segment begins with a drive letter and nothing but a backslash can follow it. -/
def isKept (s : List Char) : Bool :=
  match s with
  | a :: b :: r => a.isAlpha && (b == ':' || b == '|') && (r.isEmpty || r.head? == some '\\')
  | _ => false

/-- One level up: without the last segment, unless that is a drive letter. The segments are in
reverse. -/
def up : List (List Char) → List (List Char)
  | [] => []
  | s :: r => if isKept s then s :: r else r

/-- The segment as it stands in a path: in the path of a file, a drive letter that comes first gets
a colon. -/
def settle (file : Bool) (done : List (List Char)) (s : List Char) : List Char :=
  if file && done.isEmpty && isDrive s then s.take 1 ++ [':'] else s

/-- Works off the segments before the last slash, and then the last one; `done` are those worked
off, in reverse. -/
def resolve (file : Bool) (done : List (List Char)) : List (List Char) → List (List Char)
  | [] => done.reverse
  | [s] =>
    if isUp s then ([] :: up done).reverse
    else if isHere s then ([] :: done).reverse
    else (settle file done s :: done).reverse
  | s :: r =>
    if isUp s then resolve file (up done) r
    else if isHere s then resolve file done r
    else resolve file (settle file done s :: done) r

/-- The path of a file without empty segments at its start. -/
def dropLeading (segs : List (List Char)) : List (List Char) :=
  match segs.dropWhile (·.isEmpty) with
  | [] => [[]]
  | r => r

/-- The encoded pieces of a text that has no slash at its start. In some schemes backslashes
are slashes. -/
def pieces (backslash : Bool) (text : List Char) : List (List Char) :=
  let plain := if backslash then text.map fun c => if c = '\\' then '/' else c else text
  (Form.splitOn '/' plain).map (Percent.encode Percent.EncodeSet.path)

/-- The segments of a path of these pieces. -/
def segments (file : Bool) (ps : List (List Char)) : List (List Char) :=
  let done := resolve file [] ps
  if file then dropLeading done else done

/-- Whether the path of a file begins with a drive letter. -/
def startsWithDrive (ps : List (List Char)) : Bool := (resolve true [] ps).head?.any isDrive

/-- Every segment behind a slash. -/
def text (segs : List (List Char)) : List Char := segs.flatMap ('/' :: ·)

/-- The segments without empty ones at the end; one empty segment stays if there is no other. -/
def trimmed (segs : List (List Char)) : List (List Char) :=
  match (segs.reverse.dropWhile (·.isEmpty)).reverse with
  | [] => [[]]
  | r => r

end UrlMask.Url.Path
