import UrlMask.Regex.Basic

/-!
# Normal forms of regexes

A regex is brought into a normal form before an automaton is made of it: characters that follow
each other are joined to one literal of bytes, alternatives that are single characters to one
set, and items that all alternatives begin with are taken out. The size of the automaton is that
of the normal form.

* `Form.ofRegex`: the normal form.
* `Form.minBytes`, `Form.maxBytes`: the lengths of the spans, in bytes.
-/
namespace UrlMask

/-- A regex in normal form. -/
inductive Form where
  | empty
  | literal (bytes : List UInt8)
  | set (s : CharSet)
  | look (kind : Look)
  | capture (index : Nat) (f : Form)
  | repeat (min : Nat) (max : Option Nat) (greedy : Bool) (f : Form)
  | concat (items : List Form)
  | alternation (branches : List Form)
  deriving Repr

namespace Form

/-- Whether two forms are the same. -/
def same : Form → Form → Bool
  | empty, empty => true
  | literal a, literal b => a == b
  | set s, set t => s == t
  | look k, look l => k == l
  | capture i f, capture j g => i == j && f.same g
  | .repeat min max greedy f, .repeat min' max' greedy' g =>
    min == min' && max == max' && greedy == greedy' && f.same g
  | concat fs, concat gs => list fs gs
  | alternation fs, alternation gs => list fs gs
  | _, _ => false
where
  list : List Form → List Form → Bool
    | [], [] => true
    | f :: fs, g :: gs => f.same g && list fs gs
    | _, _ => false

instance : BEq Form := ⟨same⟩

/-- The UTF-8 bytes of a code point. -/
def bytesOf (n : Nat) : List UInt8 := String.utf8EncodeChar (Char.ofNat n)

/-- The form of a set: a set of one character is a literal. -/
def ofSet (s : CharSet) : Form :=
  match s.intervals with
  | [i] => if i.lo = i.hi then .literal (bytesOf i.lo) else .set s
  | _ => .set s

/-! ## Lengths -/

/-- The sum, if both are known. -/
def add? (a b : Option Nat) : Option Nat := a.bind fun x => b.map (x + ·)

/-- The least number of bytes of a described span; unknown if there may be none. -/
def minBytes : Form → Option Nat
  | empty | look _ => some 0
  | literal bs => some bs.length
  | set s => s.intervals.head?.map fun i => (bytesOf i.lo).length
  | capture _ f => f.minBytes
  | .repeat min _ _ f => f.minBytes.map (· * min)
  | concat fs => sum fs
  | alternation fs => least fs
where
  sum : List Form → Option Nat
    | [] => some 0
    | f :: fs => add? f.minBytes (sum fs)
  least : List Form → Option Nat
    | [] => none
    | [f] => f.minBytes
    | f :: fs => f.minBytes.bind fun a => (least fs).map (min a ·)

/-- The greatest number of bytes of a described span; unknown if there is no bound or no span. -/
def maxBytes : Form → Option Nat
  | empty | look _ => some 0
  | literal bs => some bs.length
  | set s => s.intervals.getLast?.map fun i => (bytesOf i.hi).length
  | capture _ f => f.maxBytes
  | .repeat _ max _ f => max.bind fun m => f.maxBytes.map (· * m)
  | concat fs => sum fs
  | alternation fs => greatest fs
where
  sum : List Form → Option Nat
    | [] => some 0
    | f :: fs => add? f.maxBytes (sum fs)
  greatest : List Form → Option Nat
    | [] => none
    | [f] => f.maxBytes
    | f :: fs => f.maxBytes.bind fun a => (greatest fs).map (max a ·)

/-- Whether every described span is empty. -/
def isZeroWidth (f : Form) : Bool := f.maxBytes == some 0

/-! ## Anchors -/

/-- Whether every described span starts at the start of the text, by an assertion before its
first character. -/
def startsText : Form → Bool
  | look k => k == .startText
  | capture _ f => f.startsText
  | .repeat min _ _ f => min != 0 && f.startsText
  | concat fs => first fs
  | alternation fs => all fs
  | _ => false
where
  first : List Form → Bool
    | [] => false
    | f :: fs => f.startsText || (f.isZeroWidth && first fs)
  all : List Form → Bool
    | [] => true
    | f :: fs => f.startsText && all fs

/-- Whether every described span ends at the end of the text, by an assertion after its last
character. -/
def endsText : Form → Bool
  | look k => k == .endText
  | capture _ f => f.endsText
  | .repeat min _ _ f => min != 0 && f.endsText
  | concat fs => (last fs).1
  | alternation fs => all fs
  | _ => false
where
  /-- Also gives whether all items are empty spans. -/
  last : List Form → Bool × Bool
    | [] => (false, true)
    | f :: fs =>
      let (found, zero) := last fs
      (found || (zero && f.endsText), zero && f.isZeroWidth)
  all : List Form → Bool
    | [] => true
    | f :: fs => f.endsText && all fs

/-! ## Sequences -/

/-- An item that is no sequence, before a form. -/
def prependItem : Form → Form → Form
  | empty, g => g
  | f, empty => f
  | literal a, literal b => .literal (a ++ b)
  | literal a, concat (literal b :: fs) => .concat (literal (a ++ b) :: fs)
  | f, concat fs => .concat (f :: fs)
  | f, g => .concat [f, g]

/-- One form before another. -/
def prepend (f g : Form) : Form :=
  match f with
  | concat fs => fs.foldr prependItem g
  | f => prependItem f g

def ofItems (fs : List Form) : Form := fs.foldr prepend .empty

/-! ## Repetitions -/

/-- A repetition. Empty spans are repeated at most once. -/
def ofRepeat (min : Nat) (max : Option Nat) (greedy : Bool) (f : Form) : Form :=
  let min' := if f.isZeroWidth then Nat.min min 1 else min
  let max' := if f.isZeroWidth then some (Nat.min (max.getD 1) 1) else max
  if min' = 0 ∧ max' = some 0 then .empty
  else if min' = 1 ∧ max' = some 1 then f
  else .repeat min' max' greedy f

/-! ## Alternatives -/

/-- The code point of a literal of one character. -/
def charOf? : Form → Option Nat
  | literal bs =>
    match bs.map UInt8.toNat with
    | [a] => if a < 0x80 then some a else none
    | [a, b] => if 0xC0 ≤ a ∧ a < 0xE0 then some ((a - 0xC0) * 64 + (b - 0x80)) else none
    | [a, b, c] =>
      if 0xE0 ≤ a ∧ a < 0xF0 then some (((a - 0xE0) * 64 + (b - 0x80)) * 64 + (c - 0x80))
      else none
    | [a, b, c, d] =>
      if 0xF0 ≤ a then
        some ((((a - 0xF0) * 64 + (b - 0x80)) * 64 + (c - 0x80)) * 64 + (d - 0x80))
      else none
    | _ => none
  | _ => none

def set? : Form → Option CharSet
  | set s => some s
  | _ => none

def concat? : Form → Option (List Form)
  | concat fs => some fs
  | _ => none

/-- The number of items that two sequences begin with alike. -/
def commonLength : List Form → List Form → Nat
  | f :: fs, g :: gs => if f == g then commonLength fs gs + 1 else 0
  | _, _ => 0

/-- Alternatives within alternatives are alternatives. -/
def branchesOf : Form → List Form
  | alternation fs => fs
  | f => [f]

/-- Alternatives that are not alternatives themselves, joined to one set if all are characters
or all are sets. -/
def joinBranches (fs : List Form) : Form :=
  match fs with
  | [] => .set .empty
  | [f] => f
  | _ =>
    match fs.mapM charOf? with
    | some ns => .ofSet (.ofIntervals (ns.map fun n => ⟨n, n⟩))
    | none =>
      match fs.mapM set? with
      | some ss => .ofSet (.ofIntervals (ss.flatMap (·.intervals)))
      | none => .alternation fs

/-- Alternatives, with the items taken out that all of them begin with. `fuel` bounds how often
that can happen. -/
def ofBranches : Nat → List Form → Form
  | 0, fs => joinBranches (fs.flatMap branchesOf)
  | fuel + 1, fs =>
    match joinBranches (fs.flatMap branchesOf) with
    | alternation gs =>
      match gs.mapM concat? with
      | some (items :: rest) =>
        let n := rest.foldl (fun n is => Nat.min n (commonLength items is)) items.length
        if n = 0 then .alternation gs
        else
          ofItems (items.take n ++
            [ofBranches fuel ((items :: rest).map fun is => ofItems (is.drop n))])
      | _ => .alternation gs
    | f => f

/-- Taking out common items shortens the sequences, so their length bounds the rounds. -/
def ofAlternatives (fs : List Form) : Form :=
  match fs with
  | [f] => f
  | _ =>
    let itemCount (f : Form) : Nat := ((f.concat?).getD []).length
    ofBranches (((fs.flatMap branchesOf).map itemCount).foldl (· + ·) 0 + 1) fs

/-- The normal forms of the alternatives of a regex. -/
def ofRegexBranches : Regex → List Form
  | .empty => [.empty]
  | .set s => [.ofSet s]
  | .look k => [.look k]
  | .seq r s => [prepend (ofAlternatives (ofRegexBranches r)) (ofAlternatives (ofRegexBranches s))]
  | .alt r s => ofAlternatives (ofRegexBranches r) :: ofRegexBranches s
  | .group none r => [ofAlternatives (ofRegexBranches r)]
  | .group (some i) r => [.capture i (ofAlternatives (ofRegexBranches r))]
  | .repeat min max greedy r =>
    [ofRepeat min max greedy (ofAlternatives (ofRegexBranches r))]

/-- The normal form of a regex. -/
def ofRegex (r : Regex) : Form := ofAlternatives (ofRegexBranches r)

end Form

end UrlMask
