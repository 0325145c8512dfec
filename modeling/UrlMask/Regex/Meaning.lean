import UrlMask.Regex.Basic
import UrlMask.Regex.Query
import UrlMask.Unicode.CaseFold

/-!
# What a syntax tree describes

`Ast.meaning` turns a syntax tree into a regex without flags. Flags hold from the place where
they are set to the end of the group around it, across bars. What could describe a part of a
character, or asks for Unicode where it is switched off, is refused.

* `ClassTree.chars`: the set of a bracketed class.
* `Ast.meaning`: the regex, and the flags that hold after it.
-/
namespace UrlMask.Regex

/-- The flags in force at one place. -/
structure Flags where
  ignoreCase : Bool
  multiLine : Bool
  dotNewline : Bool
  swapGreed : Bool
  unicode : Bool
  crlf : Bool
  deriving DecidableEq, Repr

namespace Flags

/-- Only Unicode is on at first. -/
def init : Flags := ⟨false, false, false, false, true, false⟩

def set (f : Flags) : Flag → Bool → Flags
  | .ignoreCase, b => { f with ignoreCase := b }
  | .multiLine, b => { f with multiLine := b }
  | .dotNewline, b => { f with dotNewline := b }
  | .swapGreed, b => { f with swapGreed := b }
  | .unicode, b => { f with unicode := b }
  | .crlf, b => { f with crlf := b }
  | .verbose, _ => f

def apply (f : Flags) (s : FlagSetting) : Flags := s.foldl (fun f e => f.set e.1 e.2) f

def wordKind (f : Flags) : WordKind := if f.unicode then .unicode else .ascii

/-- The set with its case variants, if case is ignored. -/
def fold (f : Flags) (s : CharSet) : CharSet :=
  if f.ignoreCase then (if f.unicode then s.caseClosure else s.asciiCaseClosure) else s

/-- The set, or its complement. Without Unicode a complement goes beyond ASCII, and so into the
middle of characters, unless the set holds all that is beyond. -/
def negate (f : Flags) (span : Span) (negated : Bool) (s : CharSet) : Except Fault CharSet :=
  if f.unicode then .ok (if negated then s.compl else s)
  else
    let s := if negated then s.complBytes else s
    if s.isAscii then .ok s else .error ⟨.invalidUtf8, span⟩

end Flags

/-! ## Classes -/

/-- The ASCII characters of a named class. -/
def PosixKind.set : PosixKind → CharSet
  | alnum => ⟨[⟨0x30, 0x39⟩, ⟨0x41, 0x5A⟩, ⟨0x61, 0x7A⟩]⟩
  | alpha => ⟨[⟨0x41, 0x5A⟩, ⟨0x61, 0x7A⟩]⟩
  | ascii => .range 0 0x7F
  | blank => ⟨[⟨0x9, 0x9⟩, ⟨0x20, 0x20⟩]⟩
  | cntrl => ⟨[⟨0, 0x1F⟩, ⟨0x7F, 0x7F⟩]⟩
  | digit => .range 0x30 0x39
  | graph => .range 0x21 0x7E
  | lower => .range 0x61 0x7A
  | print => .range 0x20 0x7E
  | punct => ⟨[⟨0x21, 0x2F⟩, ⟨0x3A, 0x40⟩, ⟨0x5B, 0x60⟩, ⟨0x7B, 0x7E⟩]⟩
  | space => ⟨[⟨0x9, 0xD⟩, ⟨0x20, 0x20⟩]⟩
  | upper => .range 0x41 0x5A
  | word => ⟨[⟨0x30, 0x39⟩, ⟨0x41, 0x5A⟩, ⟨0x5F, 0x5F⟩, ⟨0x61, 0x7A⟩]⟩
  | xdigit => ⟨[⟨0x30, 0x39⟩, ⟨0x41, 0x46⟩, ⟨0x61, 0x66⟩]⟩

/-- The characters of `\d`, `\s` and `\w`. -/
def ShorthandKind.set (unicode : Bool) : ShorthandKind → CharSet
  | digit => if unicode then Unicode.Category.set [.decimalNumber] else PosixKind.digit.set
  | space => if unicode then Unicode.Property.whiteSpace else PosixKind.space.set
  | word => if unicode then WordKind.unicodeSet else PosixKind.word.set

def Shorthand.chars (f : Flags) (c : Shorthand) : Except Fault CharSet :=
  f.negate c.span c.negated (c.kind.set f.unicode)

def PropertyClass.chars (f : Flags) (c : PropertyClass) : Except Fault CharSet :=
  if f.unicode then
    match c.query.resolve with
    | .ok s => f.negate c.span c.negated (f.fold s)
    | .error cause => .error ⟨cause, c.span⟩
  else .error ⟨.unicodeNotAllowed, c.span⟩

/-- The code of a character of a class. Without Unicode it has to be an ASCII character. -/
def Literal.classCode (f : Flags) (l : Literal) : Except Fault Nat :=
  let n := l.char.toNat
  if f.unicode || n < 0x80 then .ok n
  else .error ⟨if l.isByte then .invalidUtf8 else .unicodeNotAllowed, l.span⟩

def SetOp.apply : SetOp → CharSet → CharSet → CharSet
  | inter => .inter
  | diff => .diff
  | symmDiff => .symmDiff

/-- The set of characters of a class. Case variants are added to the whole of every bracketed
class, before it is negated, and to both sides of an operator. -/
def ClassTree.chars (f : Flags) : ClassTree → Except Fault CharSet
  | .empty _ => .ok .empty
  | .literal l => do
    let n ← l.classCode f
    .ok (.range n n)
  | .range _ lo hi => do
    let m ← lo.classCode f
    let n ← hi.classCode f
    .ok (.range m n)
  | .posix span kind negated => f.negate span negated (f.fold kind.set)
  | .property c => c.chars f
  | .shorthand c => c.chars f
  | .bracketed span negated body => do
    let s ← body.chars f
    f.negate span negated (f.fold s)
  | .union _ items => charsList f items
  | .op _ kind lhs rhs => do
    let l ← lhs.chars f
    let r ← rhs.chars f
    .ok (kind.apply (f.fold l) (f.fold r))
where
  /-- The union of the sets of the items. -/
  charsList (f : Flags) : List ClassTree → Except Fault CharSet
    | [] => .ok .empty
    | t :: ts => do
      let s ← t.chars f
      let r ← charsList f ts
      .ok (s.union r)

/-! ## Leaves -/

/-- A character as it stands, with its case variants if case is ignored. Without Unicode, two
hexadecimal digits above `7F` name a byte, which is not a whole character. -/
def Literal.meaning (f : Flags) (l : Literal) : Except Fault Regex :=
  if f.unicode then
    .ok (.set (if f.ignoreCase && Unicode.hasCase l.char then (CharSet.singleton l.char).caseClosure
      else .singleton l.char))
  else if l.isByte && l.char.toNat ≥ 0x80 then .error ⟨.invalidUtf8, l.span⟩
  else .ok (.set (f.fold (.singleton l.char)))

/-- Every character, or every one that does not end a line. -/
def dotSet (f : Flags) : CharSet :=
  if f.dotNewline then .all
  else if f.crlf then ⟨[⟨0, 0x9⟩, ⟨0xB, 0xC⟩, ⟨0xE, CharSet.maxCode⟩]⟩
  else ⟨[⟨0, 0x9⟩, ⟨0xB, CharSet.maxCode⟩]⟩

def Assertion.look (f : Flags) : Assertion → Look
  | startLine => if f.multiLine then .startLine f.crlf else .startText
  | endLine => if f.multiLine then .endLine f.crlf else .endText
  | startText => .startText
  | endText => .endText
  | word => .boundary f.wordKind
  | notWord => .notBoundary f.wordKind
  | wordStart => .wordStart f.wordKind
  | wordEnd => .wordEnd f.wordKind
  | wordStartHalf => .wordStartHalf f.wordKind
  | wordEndHalf => .wordEndHalf f.wordKind

/-! ## Trees -/

def GroupKind.capture? : GroupKind → Option Nat
  | capture i _ => some i
  | plain _ => none

/-- The flags inside the group. -/
def GroupKind.flags (f : Flags) : GroupKind → Flags
  | capture _ _ => f
  | plain s => f.apply s

/-- The regex of a tree read under the flags `f`, and the flags after it. -/
def Ast.meaning (f : Flags) : Ast → Except Fault (Regex × Flags)
  | .empty _ => .ok (.empty, f)
  | .flags _ s => .ok (.empty, f.apply s)
  | .literal l => do
    let r ← l.meaning f
    .ok (r, f)
  | .dot span => if f.unicode then .ok (.set (dotSet f), f) else .error ⟨.invalidUtf8, span⟩
  | .assertion _ k => .ok (.look (k.look f), f)
  | .property c => do
    let s ← c.chars f
    .ok (.set s, f)
  | .shorthand c => do
    let s ← c.chars f
    .ok (.set s, f)
  | .bracketed span negated body => do
    let s ← body.chars f
    let s ← f.negate span negated (f.fold s)
    .ok (.set s, f)
  | .repetition _ min max greedy body => do
    let (r, f) ← body.meaning f
    .ok (.repeat min max (greedy != f.swapGreed) r, f)
  | .group _ kind body => do
    let (r, _) ← body.meaning (kind.flags f)
    .ok (.group kind.capture? r, f)
  | .alternation _ branches => meaningAlt f branches
  | .concat _ items => meaningSeq f items
where
  /-- The branches of an alternation. -/
  meaningAlt (f : Flags) : List Ast → Except Fault (Regex × Flags)
    | [] => .ok (.empty, f)
    | [a] => a.meaning f
    | a :: as => do
      let (r, f) ← a.meaning f
      let (s, f) ← meaningAlt f as
      .ok (.alt r s, f)
  /-- The items of a sequence. -/
  meaningSeq (f : Flags) : List Ast → Except Fault (Regex × Flags)
    | [] => .ok (.empty, f)
    | [a] => a.meaning f
    | a :: as => do
      let (r, f) ← a.meaning f
      let (s, f) ← meaningSeq f as
      .ok (.seq r s, f)

end UrlMask.Regex
