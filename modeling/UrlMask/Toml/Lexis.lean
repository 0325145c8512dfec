import UrlMask.Json.Parser

/-!
# The small parts of TOML

Every reader here takes the remaining text, and gives what it read and what remains, or nothing
where the text does not go on as it should.

* `Lexis.lineEnd`: passes to the next line, over a comment if there is one.
* `Lexis.string`: reads a text in quotation marks of any of the four kinds.
* `Lexis.keyPath`: reads a key with its dots.
-/
namespace UrlMask.Toml.Lexis

/-! ## Blanks, comments and line ends -/

def isBlank (c : Char) : Bool := c == ' ' || c == '\t'

def skipBlanks (s : List Char) : List Char := s.dropWhile isBlank

/-- Characters that may stand in comments: all but control characters other than the tabulator. -/
def isPlain (c : Char) : Bool := c == '\t' || (0x20 ≤ c.toNat && c.toNat != 0x7F)

/-- Passes over a comment, up to the end of its line. -/
def skipComment : List Char → List Char
  | '#' :: r => r.dropWhile isPlain
  | s => s

def newline? : List Char → Option (List Char)
  | '\n' :: r => some r
  | '\r' :: '\n' :: r => some r
  | _ => none

/-- Passes over blanks and a comment to the next line, or to the end of the text. -/
def lineEnd (s : List Char) : Option (List Char) :=
  match skipComment (skipBlanks s) with
  | [] => some []
  | r => newline? r

/-- Passes over blanks, comments and line ends. Every step passes a line end. -/
def skipLines : Nat → List Char → List Char
  | 0, s => s
  | fuel + 1, s =>
    let r := skipComment (skipBlanks s)
    match newline? r with
    | some r => skipLines fuel r
    | none => skipBlanks s

def skipSpace (s : List Char) : List Char := skipLines s.length s

/-! ## Texts -/

/-- Reads so many hexadecimal digits. -/
def hexNumber : Nat → Nat → List Char → Option (Nat × List Char)
  | 0, n, s => some (n, s)
  | k + 1, n, c :: r => (Json.Reader.hexDigit? c).bind fun d => hexNumber k (n * 16 + d) r
  | _ + 1, _, [] => none

/-- The character of a code point, unless it is half of a surrogate pair or beyond the last. -/
def charOf? (n : Nat) : Option Char :=
  if n < 0xD800 ∨ (0xDFFF < n ∧ n ≤ 0x10FFFF) then some (Char.ofNat n) else none

/-- Reads a code point of so many hexadecimal digits. -/
def codePoint (digits : Nat) (s : List Char) : Option (Char × List Char) :=
  (hexNumber digits 0 s).bind fun e => (charOf? e.1).map (·, e.2)

/-- Reads an escape. The backslash has been read. -/
def escape : List Char → Option (Char × List Char)
  | 'b' :: r => some ('\x08', r)
  | 'f' :: r => some ('\x0c', r)
  | 'n' :: r => some ('\n', r)
  | 'r' :: r => some ('\r', r)
  | 't' :: r => some ('\t', r)
  | '"' :: r => some ('"', r)
  | '\\' :: r => some ('\\', r)
  | 'u' :: r => codePoint 4 r
  | 'U' :: r => codePoint 8 r
  | _ => none

/-- Reads the rest of a text on one line, in which backslashes have a meaning. -/
def basicRest : Nat → List Char → Option (List Char × List Char)
  | 0, _ => none
  | _ + 1, [] => none
  | fuel + 1, c :: r =>
    if c = '"' then some ([], r)
    else if c = '\\' then
      (escape r).bind fun e => (basicRest fuel e.2).map fun t => (e.1 :: t.1, t.2)
    else if isPlain c then (basicRest fuel r).map fun t => (c :: t.1, t.2)
    else none

/-- Reads the rest of a text on one line, in which every character stands for itself. -/
def literalRest : List Char → Option (List Char × List Char)
  | [] => none
  | c :: r =>
    if c = '\'' then some ([], r)
    else if isPlain c then (literalRest r).map fun t => (c :: t.1, t.2)
    else none

/-- How many quotation marks a text starts with, counting no more than five. -/
def marks (q : Char) (s : List Char) : Nat := ((s.take 5).takeWhile (· == q)).length

/-- Passes over a line end that is written with a backslash, and all blanks and line ends behind
it. -/
def skipEscapedLine (s : List Char) : Option (List Char) :=
  (newline? (skipBlanks s)).map fun r => skipBreaks r.length r
where
  skipBreaks : Nat → List Char → List Char
    | 0, s => s
    | fuel + 1, s =>
      match newline? (skipBlanks s) with
      | some r => skipBreaks fuel r
      | none => skipBlanks s

/-- Reads the rest of a text of several lines. Up to two quotation marks may stand before the
three that end it. -/
def longRest (q : Char) : Nat → List Char → Option (List Char × List Char)
  | 0, _ => none
  | _ + 1, [] => none
  | fuel + 1, c :: r =>
    if c = q then
      let n := marks q (c :: r)
      if n < 3 then (longRest q fuel r).map fun t => (c :: t.1, t.2)
      else some (List.replicate (n - 3) q, (c :: r).drop n)
    else if c = '\\' ∧ q = '"' then
      match skipEscapedLine r with
      | some r => longRest q fuel r
      | none => (escape r).bind fun e => (longRest q fuel e.2).map fun t => (e.1 :: t.1, t.2)
    else
      match newline? (c :: r) with
      | some r => (longRest q fuel r).map fun t => ('\n' :: t.1, t.2)
      | none => if isPlain c then (longRest q fuel r).map fun t => (c :: t.1, t.2) else none

/-- A line end right behind the opening marks does not count. -/
def long (q : Char) (s : List Char) : Option (List Char × List Char) :=
  let s := (newline? s).getD s
  longRest q (s.length + 1) s

/-- Reads a text of one line. -/
def short : List Char → Option (List Char × List Char)
  | '"' :: r => basicRest (r.length + 1) r
  | '\'' :: r => literalRest r
  | _ => none

/-- Reads a text. -/
def string : List Char → Option (List Char × List Char)
  | '"' :: '"' :: '"' :: r => long '"' r
  | '\'' :: '\'' :: '\'' :: r => long '\'' r
  | s => short s

/-! ## Keys -/

/-- Characters that may stand in a key without quotation marks. -/
def isKeyChar (c : Char) : Bool := c.isAlphanum || c == '-' || c == '_'

/-- Reads a key without dots. -/
def simpleKey (s : List Char) : Option (String × List Char) :=
  match s with
  | '"' :: _ | '\'' :: _ => (short s).map fun t => (String.ofList t.1, t.2)
  | _ =>
    let k := s.takeWhile isKeyChar
    if k.isEmpty then none else some (String.ofList k, s.dropWhile isKeyChar)

/-- Reads a key with dots, blanks around each part included. -/
def keyParts : Nat → List Char → Option (List String × List Char)
  | 0, _ => none
  | fuel + 1, s =>
    (simpleKey (skipBlanks s)).bind fun k =>
      match skipBlanks k.2 with
      | '.' :: r => (keyParts fuel r).map fun ks => (k.1 :: ks.1, ks.2)
      | r => some ([k.1], r)

/-- A key has fewer parts than this. -/
def depthLimit : Nat := 80

/-- Reads a key with dots. -/
def keyPath (s : List Char) : Option (List String × List Char) :=
  (keyParts (s.length + 1) s).filter fun k => k.1.length < depthLimit

end UrlMask.Toml.Lexis
