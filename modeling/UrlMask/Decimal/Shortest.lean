import UrlMask.Decimal.Binary64

/-!
# The shortest decimal that reads back

A number is written with the fewest significant digits that still read back as the same number,
and with those of them that are nearest to it. Where two are equally near, a `Tie` says which.

* `Shortest.ofBinary64`: these digits, and the power of ten by which they are to be multiplied.
-/
namespace UrlMask

/-- The decimal `digits * 10 ^ exponent`. -/
structure Decimal where
  digits : Nat
  exponent : Int
  deriving DecidableEq, Repr

/-- Which of two equally near decimals is taken. -/
inductive Tie where
  /-- The one with the even last digit. -/
  | toEven
  /-- The greater one. -/
  | up
  deriving DecidableEq, Repr

/-- Whether a tie between `lo` and `lo + 1` goes to `lo`. -/
def Tie.isLower (tie : Tie) (lo : Nat) : Bool :=
  match tie with
  | toEven => lo % 2 == 0
  | up => false

namespace Shortest

/-- Whether `digits * 10 ^ exponent` reads as the positive number `x`. -/
def readsAs (x : Binary64) (d : Decimal) : Bool :=
  Binary64.ofDecimal false d.digits d.exponent == some { x with negative := false }

/-- `num / den` in units of `10 ^ e`, rounded down. -/
def floorAt (num den : Nat) (e : Int) : Nat :=
  if 0 ≤ e then num / (den * Nat.pow 10 e.toNat) else num * Nat.pow 10 (-e).toNat / den

/-- Whether, of `lo` and `lo + 1` units of `10 ^ e`, the first is the one to take for `num / den`:
it is nearer, or both are equally near and the tie goes to it. -/
def takesLower (tie : Tie) (num den : Nat) (e : Int) (lo : Nat) : Bool :=
  -- Compares `num / den` with `(2 * lo + 1) / 2` units.
  let value := if 0 ≤ e then 2 * num else 2 * num * Nat.pow 10 (-e).toNat
  let middle := if 0 ≤ e then (2 * lo + 1) * (den * Nat.pow 10 e.toNat) else (2 * lo + 1) * den
  value < middle || (value == middle && tie.isLower lo)

/-- The decimal on the grid of `10 ^ e` that reads as `x`, the nearer if there are two. -/
def onGrid? (tie : Tie) (x : Binary64) (e : Int) : Option Decimal :=
  let lo := floorAt x.num x.den e
  let below : Decimal := ⟨lo, e⟩
  let above : Decimal := ⟨lo + 1, e⟩
  match readsAs x below, readsAs x above with
  | true, true => some (if takesLower tie x.num x.den e lo then below else above)
  | true, false => some below
  | false, true => some above
  | false, false => none

/-- The power of ten of the first digit: the greatest `k` with `10 ^ k ≤ num / den`, found from
`k` downwards. -/
def leadFrom (num den : Nat) : Nat → Int → Int
  | 0, k => k
  | fuel + 1, k => if floorAt num den k = 0 then leadFrom num den fuel (k - 1) else k

/-- Tries ever finer grids, from that of the first digit on. Seventeen digits are enough. -/
def search (tie : Tie) (x : Binary64) (lead : Int) : Nat → Option Decimal
  | 0 => none
  | n + 1 =>
    match onGrid? tie x (lead - 17 + n + 1) with
    | some d => some d
    | none => search tie x lead n

/-- Without zeros at the end. -/
def strip : Nat → Decimal → Decimal
  | 0, d => d
  | fuel + 1, d =>
    if d.digits ≠ 0 ∧ d.digits % 10 = 0 then strip fuel ⟨d.digits / 10, d.exponent + 1⟩ else d

/-- The shortest decimal that reads back as `x` without its sign, nearest to it. -/
def ofBinary64 (tie : Tie) (x : Binary64) : Decimal :=
  if x.isZero then ⟨0, 0⟩
  else
    let bits : Int := (x.num.log2 : Int) - x.den.log2
    let start := if 0 ≤ bits then bits * 30103 / 100000 + 2 else bits * 30102 / 100000 + 2
    let lead := leadFrom x.num x.den 6 start
    match search tie x lead 18 with
    | some d => strip 20 d
    | none => ⟨0, 0⟩

end Shortest

/-- The digits of a number in base ten. -/
def decimalDigits (n : Nat) : List Char := Nat.toDigits 10 n

/-- How a number is written: positionally from 10^-5 up to 10^16, otherwise with a signed
exponent; a whole number keeps one zero after its point, and a tie goes to the even digit. -/
def Binary64.text (x : Binary64) : List Char :=
  let sign := if x.negative then ['-'] else []
  let d := Shortest.ofBinary64 .toEven x
  let ds := decimalDigits d.digits
  let point : Int := ds.length + d.exponent
  sign ++
    if x.isZero then ['0', '.', '0']
    else if 0 ≤ d.exponent ∧ point ≤ 16 then
      ds ++ List.replicate d.exponent.toNat '0' ++ ['.', '0']
    else if 0 < point ∧ point ≤ 16 then
      ds.take point.toNat ++ '.' :: ds.drop point.toNat
    else if -5 < point ∧ point ≤ 0 then
      '0' :: '.' :: List.replicate (-point).toNat '0' ++ ds
    else
      let exp := point - 1
      let mark := if exp < 0 then '-' else '+'
      let frac := if ds.length ≤ 1 then ds else ds.take 1 ++ '.' :: ds.drop 1
      frac ++ 'e' :: mark :: decimalDigits exp.natAbs

end UrlMask
