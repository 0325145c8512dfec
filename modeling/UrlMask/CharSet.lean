/-!
# Sets of code points

A set is a list of closed intervals. The operations keep the intervals sorted, disjoint and
apart, so that two sets with the same members have the same intervals; membership itself needs
none of that.

* `CharSet.mem`: membership, the view through which every other operation is understood.
* `union`, `inter`, `diff`, `symmDiff`, `compl`: the set algebra of bracketed classes.
-/
namespace UrlMask

/-- The code points from `lo` to `hi`, both included. -/
structure Interval where
  lo : Nat
  hi : Nat
  deriving DecidableEq, Repr

namespace Interval

def mem (n : Nat) (i : Interval) : Bool := i.lo ≤ n && n ≤ i.hi

end Interval

/-- A set of code points, as intervals. -/
structure CharSet where
  intervals : List Interval
  deriving DecidableEq, Repr

namespace CharSet

/-- The last code point. -/
def maxCode : Nat := 0x10FFFF

def empty : CharSet := ⟨[]⟩

def mem (n : Nat) (s : CharSet) : Bool := s.intervals.any (·.mem n)

/-- Whether the set holds the character `c`. -/
def has (s : CharSet) (c : Char) : Bool := s.mem c.toNat

def range (lo hi : Nat) : CharSet := ⟨[⟨lo, hi⟩]⟩

def singleton (c : Char) : CharSet := range c.toNat c.toNat

/-- Joins neighbours of a list that is sorted by lower end. -/
def join : List Interval → List Interval
  | [] => []
  | [i] => [i]
  | i :: j :: r =>
    if j.lo ≤ i.hi + 1 then join (⟨i.lo, max i.hi j.hi⟩ :: r) else i :: join (j :: r)
  termination_by l => l.length

/-- The set of the given intervals, in any order and overlapping or not. -/
def ofIntervals (l : List Interval) : CharSet :=
  ⟨join ((l.filter fun i => i.lo ≤ i.hi).mergeSort fun i j => i.lo ≤ j.lo)⟩

def union (s t : CharSet) : CharSet := ofIntervals (s.intervals ++ t.intervals)

/-- The common part of two sorted lists of disjoint intervals. -/
def interIntervals : List Interval → List Interval → List Interval
  | [], _ => []
  | _, [] => []
  | i :: s, j :: t =>
    let here : List Interval :=
      if max i.lo j.lo ≤ min i.hi j.hi then [⟨max i.lo j.lo, min i.hi j.hi⟩] else []
    if i.hi < j.hi then here ++ interIntervals s (j :: t) else here ++ interIntervals (i :: s) t
  termination_by s t => s.length + t.length

def inter (s t : CharSet) : CharSet := ⟨interIntervals s.intervals t.intervals⟩

/-- The gaps of a sorted list between `lo` and `hi`. -/
def gaps (lo hi : Nat) : List Interval → List Interval
  | [] => if lo ≤ hi then [⟨lo, hi⟩] else []
  | i :: r =>
    if hi < i.lo then (if lo ≤ hi then [⟨lo, hi⟩] else [])
    else if i.hi < lo then gaps lo hi r
    else if lo < i.lo then ⟨lo, i.lo - 1⟩ :: gaps (i.hi + 1) hi r
    else gaps (i.hi + 1) hi r

/-- The characters outside the set. Surrogate code points are no characters. -/
def compl (s : CharSet) : CharSet :=
  ofIntervals (gaps 0 0xD7FF s.intervals ++ gaps 0xE000 maxCode s.intervals)

/-- The bytes outside the set. -/
def complBytes (s : CharSet) : CharSet := ⟨gaps 0 0xFF s.intervals⟩

def diff (s t : CharSet) : CharSet := s.inter t.compl

def symmDiff (s t : CharSet) : CharSet := (s.diff t).union (t.diff s)

/-- Whether every member is below 128. -/
def isAscii (s : CharSet) : Bool := s.intervals.all (·.hi < 0x80)

/-- Every character. -/
def all : CharSet := range 0 maxCode

end CharSet

end UrlMask
