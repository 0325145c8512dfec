import UrlMask.Json.Parser
import UrlMask.Toml.Value

/-!
# Reading TOML numbers

Digits may be separated by single underscores. Integers have 64 bits with their sign, and may be
written in base sixteen, eight or two. Floating-point numbers are rounded to the nearest.

* `Number.read`: reads a number.
-/
namespace UrlMask.Toml.Number

/-- Reads digits with single underscores between them, at least one. -/
def digits (isDigit : Char → Bool) : List Char → Option (List Char × List Char)
  | [] => none
  | c :: r => if isDigit c then some (go [c] r) else none
where
  /-- The digits read so far come in reverse. -/
  go (read : List Char) : List Char → List Char × List Char
    | [] => (read.reverse, [])
    | '_' :: c :: r =>
      if isDigit c then go (c :: read) r else (read.reverse, '_' :: c :: r)
    | c :: r => if isDigit c then go (c :: read) r else (read.reverse, c :: r)

/-- Reads the digits of a number in base ten, which starts with no needless zero. -/
def decimal : List Char → Option (List Char × List Char)
  | '0' :: r => some (['0'], r)
  | s => digits Char.isDigit s

/-- The value of digits in a base. -/
def valueIn (base : Nat) (ds : List Char) : Nat :=
  ds.foldl (fun n c => n * base + (Json.Reader.hexDigit? c).getD 0) 0

/-- An integer, if it has 64 bits. -/
def integer? (negative : Bool) (n : Nat) : Option Toml :=
  if negative then (if n ≤ Nat.pow 2 63 then some (.integer (-n)) else none)
  else if n < Nat.pow 2 63 then some (.integer n) else none

/-- Reads the digits behind the mark of a base. -/
def inBase (base : Nat) (isDigit : Char → Bool) (s : List Char) : Option (Toml × List Char) :=
  (digits isDigit s).bind fun e => (integer? false (valueIn base e.1)).map (·, e.2)

def isHexDigit (c : Char) : Bool := (Json.Reader.hexDigit? c).isSome

def isOctalDigit (c : Char) : Bool := '0' ≤ c ∧ c ≤ '7'

def isBinaryDigit (c : Char) : Bool := c == '0' || c == '1'

/-- Splits off a sign. -/
def sign : List Char → Bool × List Char
  | '+' :: r => (false, r)
  | '-' :: r => (true, r)
  | s => (false, s)

/-- Reads an exponent. -/
def exponent : List Char → Option (Int × List Char)
  | c :: r =>
    if c = 'e' ∨ c = 'E' then
      let (negative, r) := sign r
      (digits Char.isDigit r).map fun e =>
        (if negative then -(valueIn 10 e.1 : Int) else valueIn 10 e.1, e.2)
    else none
  | [] => none

/-- The number of these digits and this exponent. Beyond the range there is only the negative
infinity. -/
def float? (negative : Bool) (ds : List Char) (e : Int) : Option Toml :=
  match Binary64.ofDecimal negative (valueIn 10 ds) e with
  | some x => some (.float (.finite x))
  | none => if negative then some (.float (.infinite true)) else none

/-- Reads a floating-point number whose digits before the point have been read. -/
def floatRest (negative : Bool) (ds : List Char) : List Char → Option (Toml × List Char)
  | '.' :: r =>
    (digits Char.isDigit r).bind fun f =>
      match exponent f.2 with
      | some (e, r) => (float? negative (ds ++ f.1) (e - f.1.length)).map (·, r)
      | none => (float? negative (ds ++ f.1) (-f.1.length)).map (·, f.2)
  | s => (exponent s).bind fun e => (float? negative ds e.1).map (·, e.2)

/-- Reads the name of a number that has no digits. -/
def named (negative : Bool) : List Char → Option (Toml × List Char)
  | 'i' :: 'n' :: 'f' :: r => some (.float (.infinite negative), r)
  | 'n' :: 'a' :: 'n' :: r => some (.float .nan, r)
  | _ => none

/-- Whether a floating-point number goes on here. -/
def goesOn : List Char → Bool
  | c :: _ => c == '.' || c == 'e' || c == 'E'
  | [] => false

/-- Reads a number. -/
def read (s : List Char) : Option (Toml × List Char) :=
  match s with
  | '0' :: 'x' :: r => inBase 16 isHexDigit r
  | '0' :: 'o' :: r => inBase 8 isOctalDigit r
  | '0' :: 'b' :: r => inBase 2 isBinaryDigit r
  | _ =>
    let (negative, r) := sign s
    match named negative r with
    | some e => some e
    | none =>
      (decimal r).bind fun e =>
        if goesOn e.2 then floatRest negative e.1 e.2
        else (integer? negative (valueIn 10 e.1)).map (·, e.2)

end UrlMask.Toml.Number
