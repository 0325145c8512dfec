import UrlMask.Json.Value

/-!
# TOML values

A document is a table. Besides texts, integers, truth values, arrays and tables there are
floating-point numbers, which may be infinite or not a number, and moments: dates, times of day
and both together.

* `Toml`: the values.
* `Toml.toJson`: the JSON value in the place of a TOML value.
-/
namespace UrlMask

namespace Toml

/-- A day of the calendar. -/
structure Date where
  year : Nat
  month : Nat
  day : Nat
  deriving DecidableEq, Repr

/-- A time of day. -/
structure Time where
  hour : Nat
  minute : Nat
  second : Nat
  nanosecond : Nat
  deriving DecidableEq, Repr

/-- How far a clock is ahead of universal time. -/
inductive Offset where
  | universal
  | minutes (n : Int)
  deriving DecidableEq, Repr

/-- A date, a time of day or both, with or without an offset. -/
structure Moment where
  date : Option Date
  time : Option Time
  offset : Option Offset
  deriving DecidableEq, Repr

/-- A number in base ten with at least this many digits. -/
def padded (width n : Nat) : List Char :=
  let ds := decimalDigits n
  List.replicate (width - ds.length) '0' ++ ds

def Date.text (d : Date) : List Char :=
  padded 4 d.year ++ '-' :: (padded 2 d.month ++ '-' :: padded 2 d.day)

/-- The fraction of a second, without zeros at its end. -/
def fractionText (nanosecond : Nat) : List Char :=
  if nanosecond = 0 then []
  else '.' :: ((padded 9 nanosecond).reverse.dropWhile (· == '0')).reverse

def Time.text (t : Time) : List Char :=
  padded 2 t.hour ++ ':' :: (padded 2 t.minute ++ ':' :: padded 2 t.second) ++
    fractionText t.nanosecond

def Offset.text : Offset → List Char
  | universal => ['Z']
  | minutes n =>
    (if n < 0 then '-' else '+') :: (padded 2 (n.natAbs / 60) ++ ':' :: padded 2 (n.natAbs % 60))

/-- How a moment is written. -/
def Moment.text (m : Moment) : List Char :=
  let date := (m.date.map Date.text).getD []
  let time := (m.time.map Time.text).getD []
  date ++ (if m.date.isSome && m.time.isSome then ['T'] else []) ++ time ++
    (m.offset.map Offset.text).getD []

/-- A floating-point number. -/
inductive Real where
  | finite (x : Binary64)
  | infinite (negative : Bool)
  | nan
  deriving DecidableEq, Repr

/-- A finite number without exponent; a tie between two spellings goes up. -/
def positional (x : Binary64) : List Char :=
  let sign := if x.negative then ['-'] else []
  let d := Shortest.ofBinary64 .up x
  let ds := decimalDigits d.digits
  let point : Int := ds.length + d.exponent
  sign ++
    if x.isZero then ['0', '.', '0']
    else if 0 ≤ d.exponent then ds ++ List.replicate d.exponent.toNat '0' ++ ['.', '0']
    else if 0 < point then ds.take point.toNat ++ '.' :: ds.drop point.toNat
    else '0' :: '.' :: List.replicate (-point).toNat '0' ++ ds

def Real.text : Real → List Char
  | finite x => positional x
  | infinite negative => if negative then "-inf".toList else "inf".toList
  | nan => "NaN".toList

end Toml

/-- A TOML value. -/
inductive Toml where
  | string (s : String)
  | integer (n : Int)
  | float (x : Toml.Real)
  | boolean (b : Bool)
  | moment (m : Toml.Moment)
  | array (items : List Toml)
  /-- The entries in the order of the document. -/
  | table (entries : List (String × Toml))
  deriving Repr

namespace Toml

/-- The key under which a moment stands in JSON. -/
def momentKey : String := "$__toml_private_datetime"

/-- The JSON value in the place of a TOML value. Numbers that JSON does not have become null, and
a moment becomes an object that holds its text. -/
def toJson : Toml → Json
  | string s => .string s
  | integer n => .integer n
  | float (.finite x) => .float x
  | float _ => .null
  | boolean b => .bool b
  | moment m => .object [(momentKey, .string (String.ofList m.text))]
  | array l => .array (items l)
  | table es => .object (Members.ofList (entries es))
where
  items : List Toml → List Json
    | [] => []
    | v :: vs => v.toJson :: items vs
  entries : List (String × Toml) → List (String × Json)
    | [] => []
    | (k, v) :: es => (k, v.toJson) :: entries es

end Toml

end UrlMask
