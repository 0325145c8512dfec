import UrlMask.Text.Utf8
import UrlMask.Unicode.Bidi
import UrlMask.Unicode.Category
import UrlMask.Unicode.HostMap
import UrlMask.Unicode.Normal
import UrlMask.Url.Form
import UrlMask.Url.Punycode

/-!
# Domain names

A domain name is brought into the one form in which it is compared: letters lose their case,
characters are composed, and labels beyond ASCII are written in Punycode behind `xn--`. Names
that hold a refused character, an ill-formed label or an ambiguous mixture of directions have no
such form.

* `DomainName.toAscii`: the form, if there is one.
-/
namespace UrlMask.DomainName

/-- ASCII characters that no host name holds. -/
def isForbidden (c : Char) : Bool :=
  c.toNat ≤ 0x20 || c.toNat == 0x7F || "%#/:<>?@[\\]^|".toList.contains c

def isAscii (s : List Char) : Bool := s.all (·.toNat < 0x80)

/-- The marks of a label in Punycode. -/
def punycodeMark : List Char := ['x', 'n', '-', '-']

/-! ## Single labels -/

/-- Whether the characters before or after a joiner have it joined: past transparent ones, the
first has to join on that side. -/
def joins (side : Unicode.Joining) (s : List Char) : Bool :=
  match (s.map Unicode.Joining.ofChar).dropWhile (· == .transparent) with
  | j :: _ => j == side || j == .both
  | [] => false

/-- Whether every zero-width joiner and non-joiner stands where it shows. `before` is read
backwards. -/
def joinersShow (before : List Char) : List Char → Bool
  | [] => true
  | c :: r =>
    let ok : Bool :=
      if c.toNat = 0x200C ∨ c.toNat = 0x200D then
        before.head?.any (Unicode.combiningClass ·.toNat == 9) ||
          (c.toNat == 0x200C && joins .left before && joins .right r)
      else true
    ok && joinersShow (c :: before) r

/-- Whether a label beyond ASCII may stand in a name: it does not begin with a mark. -/
def isSound (label : List Char) : Bool :=
  (label.head?.all fun c =>
    !([Unicode.Category.nonspacingMark, .spacingMark, .enclosingMark].contains
      (Unicode.Category.ofCode c.toNat))) &&
  joinersShow [] label

/-- The longest label that is encoded, and the longest code that is decoded. -/
def encodeLimit : Nat := 1000

def decodeLimit : Nat := 2000

/-- The label that a Punycode label stands for. It has to be just as it would be written. -/
def decodeLabel (code : List Char) : Option (List Char) :=
  if code.isEmpty || code.getLast? == some '-' || decodeLimit < code.length then none
  else
    match Punycode.decode code with
    | none => none
    | some label =>
      let codes := label.map Char.toNat
      if (label.all fun c => if c.toNat < 0x80 then !isForbidden c && c != '.' && !c.isUpper
          else Unicode.HostMap.isValid c.toNat) &&
          Unicode.compose codes == codes && isSound label then
        some label
      else none

/-- A label of the name: its characters, and how it is written. -/
structure Label where
  chars : List Char
  written : List Char

/-- A label whose characters are mapped already. -/
def Label.ofChars (s : List Char) : Option Label :=
  if punycodeMark.isPrefixOf s then
    if isAscii s then (decodeLabel (s.drop 4)).map fun chars => ⟨chars, s⟩ else none
  else if isAscii s then some ⟨s, s⟩
  else if isSound s && s.length ≤ encodeLimit then
    some ⟨s, punycodeMark ++ Punycode.encode s⟩
  else none

/-! ## Direction -/

open Unicode.Bidi in
/-- Whether the label runs from right to left, or takes part in that. -/
def isRightToLeft (s : List Char) : Bool :=
  s.any fun c => c.toNat ≥ 0x590 &&
    [rightToLeft, arabicLetter, arabicNumber].contains (Unicode.Bidi.ofChar c)

open Unicode.Bidi in
/-- Whether a label can be read in one way only, in a name that has right-to-left labels. -/
def isDirected (s : List Char) : Bool :=
  match s.map Unicode.Bidi.ofChar with
  | [] => true
  | first :: rest =>
    let core := (rest.reverse.dropWhile (· == nonspacingMark)).reverse
    let middle := core.dropLast
    match first with
    | leftToRight =>
      (core.getLast?.all [leftToRight, europeanNumber].contains) &&
        middle.all [leftToRight, europeanNumber, europeanSeparator, commonSeparator,
          europeanTerminator, otherNeutral, boundaryNeutral, nonspacingMark].contains
    | rightToLeft | arabicLetter =>
      (core.getLast?.all [rightToLeft, arabicLetter, europeanNumber, arabicNumber].contains) &&
        middle.all [rightToLeft, arabicLetter, arabicNumber, europeanNumber, europeanSeparator,
          commonSeparator, europeanTerminator, otherNeutral, boundaryNeutral,
          nonspacingMark].contains &&
        !(core.contains europeanNumber && core.contains arabicNumber)
    | _ => false

/-! ## Whole names -/

/-- Maps the characters of a piece between dots and composes them. -/
def mapPiece (s : List Char) : Option (List Char) :=
  if isAscii s then some (s.map Char.toLower)
  else
    (s.mapM fun c =>
      if c.toNat < 0x80 then some [c.toLower.toNat] else Unicode.HostMap.apply c.toNat).map
      fun codes => (Unicode.compose codes.flatten).map Char.ofNat

/-- The labels of a name. Mapping can bring in further dots. -/
def labels (name : List Char) : Option (List Label) := do
  let pieces ← (Form.splitOn '.' name).mapM mapPiece
  if pieces.any (·.any isForbidden) then none
  else (pieces.flatMap (Form.splitOn '.')).mapM Label.ofChars

/-- The labels with a dot between any two. -/
def joinDots : List (List Char) → List Char
  | [] => []
  | [l] => l
  | l :: ls => l ++ '.' :: joinDots ls

/-- The form in which a name is compared. -/
def toAscii (name : List Char) : Option (List Char) := do
  let ls ← labels name
  if ls.any (fun l => isRightToLeft l.chars) && !ls.all (fun l => isDirected l.chars) then none
  else some (joinDots (ls.map (·.written)))

end UrlMask.DomainName
