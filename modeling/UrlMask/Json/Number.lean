import UrlMask.Json.Value
import UrlMask.Json.Fault

/-!
# Reading JSON numbers

A number without fraction and exponent that fits in 64 bits is an integer; `-0` is not. Any other
number is a floating-point number: of its digits, those that fit in 64 bits count, and they are
multiplied or divided by a power of ten, both rounded first and the result rounded again.
-/
namespace UrlMask.Json.Number

open Binary64 in
/-- `significand * 10 ^ exponent`, computed on rounded numbers; none if it is too large. -/
def assemble (negative : Bool) (significand : Nat) (exponent : Int) : Option Binary64 := do
  let f ← ofNat significand
  let r ← scale 4 f exponent
  some { r with negative := negative }
where
  power (n : Nat) : Option Binary64 := ofNat (Nat.pow 10 n)
  /-- Powers beyond 10^308 are divided away in steps of that size. After a few steps nothing
  but zero is left, so `fuel` need not follow the exponent. -/
  scale : Nat → Binary64 → Int → Option Binary64
    | 0, _, _ => some zero
    | fuel + 1, f, e =>
      if e.natAbs ≤ 308 then
        if 0 ≤ e then (power e.natAbs).bind f.mul else (power e.natAbs).bind f.div
      else if f.isZero then some f
      else if 0 ≤ e then none
      else do
        let p ← power 308
        let g ← f.div p
        scale fuel g (e + 308)

/-- The least number that does not fit in 64 bits. -/
def wordBound : Nat := Nat.pow 2 64

def digitValue (c : Char) : Nat := c.toNat - '0'.toNat

/-- Reads digits while the number fits in 64 bits. Gives the number, the count of the digits
that were read and whether one more digit would not fit. -/
def digits (n count : Nat) (p : Place) : List Char → (Nat × Nat × Bool) × Cursor
  | [] => ((n, count, false), ⟨p, []⟩)
  | c :: r =>
    if c.isDigit then
      if wordBound ≤ n * 10 + digitValue c then ((n, count, true), ⟨p, c :: r⟩)
      else digits (n * 10 + digitValue c) (count + 1) (p.after c) r
    else ((n, count, false), ⟨p, c :: r⟩)

/-- Passes over digits and counts them. -/
def skipDigits (count : Nat) (p : Place) : List Char → Nat × Cursor
  | [] => (count, ⟨p, []⟩)
  | c :: r =>
    if c.isDigit then skipDigits (count + 1) (p.after c) r else (count, ⟨p, c :: r⟩)

/-- Reads the digits of an exponent; none if they go beyond 31 bits. -/
def exponentDigits (n : Nat) (p : Place) : List Char → Option Nat × Cursor
  | [] => (some n, ⟨p, []⟩)
  | c :: r =>
    if c.isDigit then
      if Nat.pow 2 31 ≤ n * 10 + digitValue c then (none, ⟨p.after c, r⟩)
      else exponentDigits (n * 10 + digitValue c) (p.after c) r
    else (some n, ⟨p, c :: r⟩)

/-- The assembled number, or that it is too large. -/
def finish (negative : Bool) (significand : Nat) (exponent : Int) (c : Cursor) :
    Except Fault (Json × Cursor) :=
  match assemble negative significand exponent with
  | some x => .ok (.float x, c)
  | none => .error ⟨.numberTooLarge, c.place⟩

/-- Reads an exponent. The cursor is at its letter. -/
def readExponent (negative : Bool) (significand : Nat) (exponent : Int) (c : Cursor) :
    Except Fault (Json × Cursor) :=
  let c := c.advance
  let (down, c) :=
    if c.peek = some '+' then (false, c.advance)
    else if c.peek = some '-' then (true, c.advance)
    else (false, c)
  match c.rest with
  | [] => .error ⟨.endInValue, c.place⟩
  | d :: r =>
    if d.isDigit then
      match exponentDigits (digitValue d) (c.place.after d) r with
      | (some n, c) => finish negative significand (if down then exponent - n else exponent + n) c
      | (none, c) =>
        if significand != 0 && !down then .error ⟨.numberTooLarge, c.place⟩
        else
          .ok (.float { Binary64.zero with negative := negative },
            (skipDigits 0 c.place c.rest).2)
    else .error ⟨.invalidNumber, c.blame⟩

/-- Reads an exponent, if there is one. -/
def readRest (negative : Bool) (significand : Nat) (exponent : Int) (c : Cursor) :
    Except Fault (Json × Cursor) :=
  if c.peek = some 'e' ∨ c.peek = some 'E' then readExponent negative significand exponent c
  else finish negative significand exponent c

/-- Reads a fraction. The cursor is at the point. -/
def readFraction (negative : Bool) (significand : Nat) (exponent : Int) (c : Cursor) :
    Except Fault (Json × Cursor) :=
  let c := c.advance
  match digits significand 0 c.place c.rest with
  | ((n, count, true), c) =>
    readRest negative n (exponent - count) (skipDigits 0 c.place c.rest).2
  | ((n, count, false), c) =>
    if count = 0 then
      if c.rest.isEmpty then .error ⟨.endInValue, c.blame⟩ else .error ⟨.invalidNumber, c.blame⟩
    else readRest negative n (exponent - count) c

/-- A number without fraction and exponent. -/
def integer (negative : Bool) (n : Nat) : Json :=
  if !negative then .integer n
  else if n = 0 ∨ Nat.pow 2 63 < n then
    .float ((Binary64.ofNat n).getD .zero).neg
  else .integer (-n)

/-- Reads what may follow the digits before the point. -/
def readAfterDigits (negative : Bool) (n : Nat) (c : Cursor) : Except Fault (Json × Cursor) :=
  if c.peek = some '.' then readFraction negative n 0 c
  else if c.peek = some 'e' ∨ c.peek = some 'E' then readExponent negative n 0 c
  else .ok (integer negative n, c)

/-- Reads a number whose sign has been read. -/
def read (negative : Bool) (c : Cursor) : Except Fault (Json × Cursor) :=
  match c.rest with
  | [] => .error ⟨.endInValue, c.place⟩
  | d :: r =>
    let c' : Cursor := ⟨c.place.after d, r⟩
    if d = '0' then
      if (r.head?.map Char.isDigit).getD false then .error ⟨.invalidNumber, c'.blame⟩
      else readAfterDigits negative 0 c'
    else if d.isDigit then
      match digits (digitValue d) 1 c'.place r with
      | ((n, _, false), c) => readAfterDigits negative n c
      | ((n, _, true), c) =>
        let (more, c) := skipDigits 0 c.place c.rest
        if c.peek = some '.' then readFraction negative n more c
        else readRest negative n more c
    else .error ⟨.invalidNumber, c.blame⟩

end UrlMask.Json.Number
