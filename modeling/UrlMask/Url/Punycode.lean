/-!
# Punycode

The characters of a label beyond ASCII are written as the steps from one to the next, in order of
code point and position; a step is a number in base 36 whose digits end at a threshold that
adapts to the steps before.

* `Punycode.encode`: the letters and digits of a label.
* `Punycode.decode`: the label, unless the text is none that `encode` writes.
-/
namespace UrlMask.Punycode

def digitChar (d : Nat) : Char := if d < 26 then Char.ofNat (97 + d) else Char.ofNat (22 + d)

def digitValue? (c : Char) : Option Nat :=
  let n := c.toNat
  if 97 ≤ n ∧ n ≤ 122 then some (n - 97)
  else if 65 ≤ n ∧ n ≤ 90 then some (n - 65)
  else if 48 ≤ n ∧ n ≤ 57 then some (n - 22)
  else none

/-- The digit from which on another one follows, at place `k`. -/
def threshold (k bias : Nat) : Nat :=
  if k ≤ bias then 1 else if bias + 26 ≤ k then 26 else k - bias

/-- Halves the step as often as needed to bring it near the base. -/
def settle : Nat → Nat → Nat → Nat
  | 0, _, k => k
  | fuel + 1, delta, k =>
    if 455 < delta then settle fuel (delta / 35) (k + 36) else k + 36 * delta / (delta + 38)

/-- The bias after a step of `delta`, with `count` characters so far. -/
def adapt (delta count : Nat) (first : Bool) : Nat :=
  let delta := if first then delta / 700 else delta / 2
  let delta := delta + delta / count
  settle (delta + 1).log2 delta 0

/-! ## Writing -/

/-- The digits of a number; `fuel` is at least their count. -/
def digits (bias : Nat) : Nat → Nat → Nat → List Char
  | 0, _, _ => []
  | fuel + 1, k, q =>
    let t := threshold k bias
    if q < t then [digitChar q]
    else digitChar (t + (q - t) % (36 - t)) :: digits bias fuel (k + 36) ((q - t) / (36 - t))

/-- The writer between two characters. -/
structure Writer where
  out : List Char
  delta : Nat
  bias : Nat
  written : Nat

/-- Passes one character of the label while those of code point `n` are written. -/
def Writer.pass (basic n : Nat) (w : Writer) (c : Nat) : Writer :=
  if c < n then { w with delta := w.delta + 1 }
  else if c = n then
    { out := w.out ++ digits w.bias (w.delta + 1) 36 w.delta
      delta := 0
      bias := adapt w.delta (w.written + 1) (w.written == basic)
      written := w.written + 1 }
  else w

/-- Writes the characters of each code point of the list, in order. -/
def writeAll (label : List Nat) (basic : Nat) : List Nat → Nat → Writer → Writer
  | [], _, w => w
  | m :: ms, n, w =>
    let w := { w with delta := w.delta + (m - n) * (w.written + 1) }
    let w := label.foldl (Writer.pass basic m) w
    writeAll label basic ms (m + 1) { w with delta := w.delta + 1 }

def encode (label : List Char) : List Char :=
  let basic := label.filter (·.toNat < 0x80)
  let codes := label.map Char.toNat
  let beyond := ((codes.filter (0x80 ≤ ·)).mergeSort fun a b => a ≤ b).eraseDups
  let start := if basic.isEmpty then [] else basic ++ ['-']
  (writeAll codes basic.length beyond 128 ⟨start, 0, 72, basic.length⟩).out

/-! ## Reading -/

/-- Reads one number, added to `i`. -/
def number (bias : Nat) : Nat → Nat → Nat → List Char → Option (Nat × List Char)
  | _, _, _, [] => none
  | k, weight, i, c :: r =>
    match digitValue? c with
    | none => none
    | some d =>
      let i := i + d * weight
      let t := threshold k bias
      if Nat.pow 2 32 ≤ i then none
      else if d < t then some (i, r)
      else if Nat.pow 2 32 ≤ weight * (36 - t) then none
      else number bias (k + 36) (weight * (36 - t)) i r

/-- Reads the remaining numbers and puts in the characters they stand for. Each number takes at
least one character, so `fuel` is to be the length of the text. -/
def readAll : Nat → Nat → Nat → Nat → List Nat → List Char → Option (List Nat)
  | _, _, _, _, out, [] => some out
  | 0, _, _, _, _, _ :: _ => none
  | fuel + 1, bias, n, i, out, s =>
    match number bias 36 1 i s with
    | none => none
    | some (j, r) =>
      let count := out.length + 1
      let n := n + j / count
      if n.isValidChar then
        readAll fuel (adapt (j - i) count (i == 0)) n (j % count + 1)
          (out.take (j % count) ++ n :: out.drop (j % count)) r
      else none

/-- The text before the last hyphen, and the text after it. -/
def splitLast (s : List Char) : List Char × List Char :=
  let tail := (s.reverse.takeWhile (· != '-')).reverse
  (s.take (s.length - tail.length - 1), tail)

def decode (s : List Char) : Option (List Char) :=
  let (basic, rest) := splitLast s
  if s.any (0x80 ≤ ·.toNat) then none
  else (readAll rest.length 72 128 0 (basic.map Char.toNat) rest).map (·.map Char.ofNat)

end UrlMask.Punycode
