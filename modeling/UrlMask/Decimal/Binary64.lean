/-!
# Binary floating-point numbers

The finite numbers of the 64-bit format: a sign, a significand below 2^53 and an exponent of two.
Results that are not on this grid are rounded to the nearest number on it, and of two equally
near ones to that with the even significand.

* `Binary64.ofRatio`: the number nearest to a fraction, unless that is beyond the range.
* `mul`, `div`: rounded products and quotients.
-/
namespace UrlMask

/-- The number `significand * 2 ^ exponent`, with its sign. The significand has 53 bits, or fewer
if the exponent is the least one. -/
structure Binary64 where
  negative : Bool
  significand : Nat
  exponent : Int
  deriving DecidableEq, Repr

namespace Binary64

/-- The least exponent. -/
def minExponent : Int := -1074

/-- The greatest exponent. -/
def maxExponent : Int := 971

def zero : Binary64 := ⟨false, 0, minExponent⟩

def isZero (x : Binary64) : Bool := x.significand == 0

def neg (x : Binary64) : Binary64 := { x with negative := !x.negative }

/-- Whether the two are the same number; the two zeros are. -/
def same (x y : Binary64) : Bool := x == y || (x.isZero && y.isZero)

/-- `num / den` rounded to an integer; a tie goes to the even one. -/
def roundDiv (num den : Nat) : Nat :=
  let q := num / den
  let r := num % den
  if 2 * r < den then q
  else if den < 2 * r then q + 1
  else if q % 2 = 0 then q else q + 1

/-- `num / den` in units of `2 ^ e`, rounded. -/
def scaled (num den : Nat) (e : Int) : Nat :=
  if 0 ≤ e then roundDiv num (den * Nat.pow 2 e.toNat) else roundDiv (num * Nat.pow 2 (-e).toNat) den

/-- The exponent with which `num / den` has 53 bits, or one less. -/
def exponentFor (num den : Nat) : Int := (num.log2 : Int) - den.log2 - 53

/-- The number nearest to `num / den`; none if that is beyond the range. -/
def ofRatio (negative : Bool) (num den : Nat) : Option Binary64 :=
  if num = 0 then some ⟨negative, 0, minExponent⟩
  else
    let e := max (exponentFor num den) minExponent
    let e := if Nat.pow 2 53 ≤ scaled num den e then e + 1 else e
    let m := scaled num den e
    let (m, e) := if Nat.pow 2 53 ≤ m then (m / 2, e + 1) else (m, e)
    if maxExponent < e then none else some ⟨negative, m, e⟩

/-- The denominator of the number as a fraction. -/
def den (x : Binary64) : Nat := Nat.pow 2 (-x.exponent).toNat

/-- The numerator of the number as a fraction, without its sign. -/
def num (x : Binary64) : Nat := x.significand * Nat.pow 2 x.exponent.toNat

def mul (x y : Binary64) : Option Binary64 :=
  ofRatio (x.negative != y.negative) (x.num * y.num) (x.den * y.den)

def div (x y : Binary64) : Option Binary64 :=
  ofRatio (x.negative != y.negative) (x.num * y.den) (x.den * y.num)

def ofNat (n : Nat) : Option Binary64 := ofRatio false n 1

/-- The number nearest to `digits * 10 ^ exponent`; none if that is beyond the range. -/
def ofDecimal (negative : Bool) (digits : Nat) (exponent : Int) : Option Binary64 :=
  if digits = 0 then some ⟨negative, 0, minExponent⟩
  else if exponent < -400 - (digits.log2 : Int) then some ⟨negative, 0, minExponent⟩
  else if 400 < exponent then none
  else if 0 ≤ exponent then ofRatio negative (digits * Nat.pow 10 exponent.toNat) 1
  else ofRatio negative digits (Nat.pow 10 (-exponent).toNat)

end Binary64

end UrlMask
