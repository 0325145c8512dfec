import UrlMask.Regex.Form

/-!
# Characters as runs of bytes

The UTF-8 forms of the characters from one code point to another, as sequences of byte runs:
a character lies between the two exactly if its bytes lie in the runs of one of the sequences.
-/
namespace UrlMask

/-- The bytes from `lo` to `hi`. -/
structure ByteRun where
  lo : Nat
  hi : Nat
  deriving DecidableEq, Repr

namespace ByteRun

/-- Cuts the range so that both parts can be told by their bytes, if it has to be cut: at the
surrogates, where the number of bytes changes, and where a byte changes while the bytes after it
do not go through all their values. -/
def cut? (lo hi : Nat) : Option ((Nat × Nat) × (Nat × Nat)) :=
  if lo < 0xE000 ∧ 0xD7FF < hi then some ((lo, 0xD7FF), (0xE000, hi))
  else if lo ≤ 0x7F ∧ 0x7F < hi then some ((lo, 0x7F), (0x80, hi))
  else if lo ≤ 0x7FF ∧ 0x7FF < hi then some ((lo, 0x7FF), (0x800, hi))
  else if lo ≤ 0xFFFF ∧ 0xFFFF < hi then some ((lo, 0xFFFF), (0x10000, hi))
  else if hi ≤ 0x7F then none
  else (atBlock 0x40).or ((atBlock 0x1000).or (atBlock 0x40000))
where
  /-- Cuts at a multiple of `n`. -/
  atBlock (n : Nat) : Option ((Nat × Nat) × (Nat × Nat)) :=
    if lo / n = hi / n then none
    else if lo % n ≠ 0 then some ((lo, lo / n * n + n - 1), (lo / n * n + n, hi))
    else if hi % n ≠ n - 1 then some ((lo, hi / n * n - 1), (hi / n * n, hi))
    else none

/-- The sequences of a range. A range is cut less often than `fuel` times in a row. -/
def sequencesFrom : Nat → Nat → Nat → List (List ByteRun)
  | 0, _, _ => []
  | fuel + 1, lo, hi =>
    if hi < lo then []
    else
      match cut? lo hi with
      | some (l, r) => sequencesFrom fuel l.1 l.2 ++ sequencesFrom fuel r.1 r.2
      | none =>
        [List.zipWith (fun a b => ⟨a.toNat, b.toNat⟩) (Form.bytesOf lo) (Form.bytesOf hi)]

/-- The sequences of a set. -/
def sequences (s : CharSet) : List (List ByteRun) :=
  s.intervals.flatMap fun i => sequencesFrom 32 i.lo i.hi

end ByteRun

end UrlMask
