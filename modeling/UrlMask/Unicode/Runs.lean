import UrlMask.CharSet

/-!
# Tables of code points as text

A table is a text of numerals in base 36. Three readings are used: alternate gaps and runs
(`ranges`), a value and a run for each part of a partition (`parts`), and records of a length
and that many numbers (`records`).
-/
namespace UrlMask.Unicode

/-- The value of a digit in base 36: `0` to `9`, then `a` to `z`. -/
def digit36 (c : Char) : Option Nat :=
  if '0' ≤ c ∧ c ≤ '9' then some (c.toNat - '0'.toNat)
  else if 'a' ≤ c ∧ c ≤ 'z' then some (c.toNat - 'a'.toNat + 10)
  else none

/-- Reads on from `cur`, the numeral begun before these characters. -/
def numeralsFrom : Option Nat → List Char → List Nat
  | none, [] => []
  | some n, [] => [n]
  | cur, c :: cs =>
    match digit36 c with
    | some d => numeralsFrom (some (cur.getD 0 * 36 + d)) cs
    | none =>
      match cur with
      | some n => n :: numeralsFrom none cs
      | none => numeralsFrom none cs

/-- The numbers of a text of numerals; anything but a digit separates. -/
def numerals (s : String) : List Nat := numeralsFrom none s.toList

/-- Alternate gap and run lengths, from code point `start` on. -/
def rangesFrom : Nat → List Nat → List Interval
  | start, gap :: len :: rest =>
    ⟨start + gap, start + gap + len - 1⟩ :: rangesFrom (start + gap + len) rest
  | _, _ => []

def ranges (s : String) : CharSet := ⟨rangesFrom 0 (numerals s)⟩

/-- Alternate values and run lengths, from code point `start` on. -/
def partsFrom : Nat → List Nat → List (Interval × Nat)
  | start, value :: len :: rest =>
    (⟨start, start + len - 1⟩, value) :: partsFrom (start + len) rest
  | _, _ => []

/-- A partition of the code points into runs of equal value. -/
def parts (s : String) : List (Interval × Nat) := partsFrom 0 (numerals s)

/-- The value of the run that holds `n`. -/
def valueAt (table : List (Interval × Nat)) (n : Nat) : Nat :=
  match table.find? fun p => n ≤ p.1.hi with
  | some p => p.2
  | none => 0

/-- The code points whose value satisfies `p`. -/
def whereValue (table : List (Interval × Nat)) (p : Nat → Bool) : CharSet :=
  ⟨CharSet.join ((table.filter fun e => p e.2).map (·.1))⟩

/-- Records that each start with their length. -/
def recordsFrom (fuel : Nat) : List Nat → List (List Nat)
  | [] => []
  | n :: rest =>
    match fuel with
    | 0 => []
    | fuel + 1 => rest.take n :: recordsFrom fuel (rest.drop n)

def records (s : String) : List (List Nat) :=
  let ns := numerals s
  recordsFrom ns.length ns

end UrlMask.Unicode
