import UrlMask.CharSet
import UrlMask.Unicode.Property
import UrlMask.Unicode.Category

/-!
# Regexes as descriptions of spans

A `Regex` says which spans of a text are described, given what stands before and after them.
Flags are gone: each leaf carries its own set of characters, and each assertion its own rule.

* `Look.holds`: what an assertion asks of the characters on its two sides.
* `Regex.groups`: the capture groups.
* `Matches`: the spans that a regex describes, in place.
* `Regex.Finds`: some span of the text is described.
-/
namespace UrlMask

/-- The characters that make up words. -/
inductive WordKind where
  | ascii
  | unicode
  deriving DecidableEq, Repr

namespace WordKind

/-- Letters, marks, decimal digits, connectors and joiners. -/
def unicodeSet : CharSet :=
  (Unicode.Property.alphabetic.union Unicode.Property.joinControl).union
    (Unicode.Category.set
      [.nonspacingMark, .spacingMark, .enclosingMark, .decimalNumber, .connectorPunctuation])

def asciiSet : CharSet := ⟨[⟨0x30, 0x39⟩, ⟨0x41, 0x5A⟩, ⟨0x5F, 0x5F⟩, ⟨0x61, 0x7A⟩]⟩

def set : WordKind → CharSet
  | ascii => asciiSet
  | unicode => unicodeSet

/-- Whether the character is there and belongs to words. ASCII characters need no table. -/
def holds (k : WordKind) : Option Char → Bool
  | none => false
  | some c => if c.toNat < 0x80 then asciiSet.has c else k.set.has c

end WordKind

/-- The zero-width assertions. A line ends with a newline or, if `crlf`, also with a carriage
return or both. -/
inductive Look where
  | startText
  | endText
  | startLine (crlf : Bool)
  | endLine (crlf : Bool)
  | boundary (k : WordKind)
  | notBoundary (k : WordKind)
  | wordStart (k : WordKind)
  | wordEnd (k : WordKind)
  | wordStartHalf (k : WordKind)
  | wordEndHalf (k : WordKind)
  deriving DecidableEq, Repr

namespace Look

/-- Whether the assertion holds between the characters `prev` and `next`. -/
def holds (prev next : Option Char) : Look → Bool
  | startText => prev.isNone
  | endText => next.isNone
  | startLine false => prev.isNone || prev == some '\n'
  | endLine false => next.isNone || next == some '\n'
  | startLine true =>
    prev.isNone || prev == some '\n' || (prev == some '\r' && next != some '\n')
  | endLine true =>
    next.isNone || next == some '\r' || (next == some '\n' && prev != some '\r')
  | boundary k => k.holds prev != k.holds next
  | notBoundary k => k.holds prev == k.holds next
  | wordStart k => !k.holds prev && k.holds next
  | wordEnd k => k.holds prev && !k.holds next
  | wordStartHalf k => !k.holds prev
  | wordEndHalf k => !k.holds next

end Look

/-- A regex without flags. -/
inductive Regex where
  /-- The empty span. -/
  | empty
  /-- One character of the set. -/
  | set (s : CharSet)
  /-- The empty span, where the assertion holds. -/
  | look (kind : Look)
  /-- A span of `r`, then one of `s`. -/
  | seq (r s : Regex)
  /-- A span of `r` or of `s`. -/
  | alt (r s : Regex)
  /-- A span of `r`, which may be captured. -/
  | group (capture : Option Nat) (r : Regex)
  /-- `min` to `max` spans of `r` in a row; without `max`, any number from `min` on. -/
  | repeat (min : Nat) (max : Option Nat) (greedy : Bool) (r : Regex)
  deriving DecidableEq, Repr

/-- The capture groups of a regex, in order of their opening brackets. What is repeated no times is
not part of the regex, and neither are its groups. -/
def Regex.groups : Regex → List Nat
  | .empty | .set _ | .look _ => []
  | .seq r s | .alt r s => r.groups ++ s.groups
  | .group i r => i.toList ++ r.groups
  | .repeat _ max _ r => if max = some 0 then [] else r.groups

/-- `Matches r before span after`: the regex describes `span` where `before` stands before it
and `after` after it. -/
inductive Matches : Regex → List Char → List Char → List Char → Prop where
  | empty {b a} : Matches .empty b [] a
  | set {s c b a} : s.has c = true → Matches (.set s) b [c] a
  | look {k : Look} {b a} : k.holds b.getLast? a.head? = true → Matches (.look k) b [] a
  | seq {r s b u v a} : Matches r b u (v ++ a) → Matches s (b ++ u) v a →
    Matches (.seq r s) b (u ++ v) a
  | altLeft {r s b u a} : Matches r b u a → Matches (.alt r s) b u a
  | altRight {r s b u a} : Matches s b u a → Matches (.alt r s) b u a
  | group {i r b u a} : Matches r b u a → Matches (.group i r) b u a
  | none {max g r b a} : Matches (.repeat 0 max g r) b [] a
  | more {min max g r b u v a} : max ≠ some 0 → Matches r b u (v ++ a) →
    Matches (.repeat (min - 1) (max.map (· - 1)) g r) (b ++ u) v a →
    Matches (.repeat min max g r) b (u ++ v) a

/-- Whether some span of the text is described. -/
def Regex.Finds (r : Regex) (text : List Char) : Prop :=
  ∃ before span after, before ++ (span ++ after) = text ∧ Matches r before span after

end UrlMask
