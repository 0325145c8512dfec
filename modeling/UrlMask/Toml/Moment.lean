import UrlMask.Toml.Value

/-!
# Reading dates and times

* `Moment.read`: reads a date, a time of day or both.
-/
namespace UrlMask.Toml

/-- Reads a number of exactly so many digits. -/
def fixedDigits : Nat → Nat → List Char → Option (Nat × List Char)
  | 0, n, s => some (n, s)
  | k + 1, n, c :: r => if c.isDigit then fixedDigits k (n * 10 + (c.toNat - 48)) r else none
  | _ + 1, _, [] => none

/-- Passes one character. -/
def pass (c : Char) : List Char → Option (List Char)
  | d :: r => if d = c then some r else none
  | [] => none

def isLeap (year : Nat) : Bool := year % 4 == 0 && (year % 100 != 0 || year % 400 == 0)

def monthLength (year month : Nat) : Nat :=
  if month = 2 then (if isLeap year then 29 else 28)
  else if month = 4 ∨ month = 6 ∨ month = 9 ∨ month = 11 then 30
  else 31

def Date.read (s : List Char) : Option (Date × List Char) := do
  let (year, s) ← fixedDigits 4 0 s
  let s ← pass '-' s
  let (month, s) ← fixedDigits 2 0 s
  let s ← pass '-' s
  let (day, s) ← fixedDigits 2 0 s
  if 1 ≤ month ∧ month ≤ 12 ∧ 1 ≤ day ∧ day ≤ monthLength year month then
    some (⟨year, month, day⟩, s)
  else none

/-- Reads an hour and a minute. -/
def hourMinute (s : List Char) : Option ((Nat × Nat) × List Char) := do
  let (hour, s) ← fixedDigits 2 0 s
  let s ← pass ':' s
  let (minute, s) ← fixedDigits 2 0 s
  if hour ≤ 23 ∧ minute ≤ 59 then some ((hour, minute), s) else none

/-- The nanoseconds of the digits behind the point; digits beyond the ninth do not count. -/
def nanoseconds (ds : List Char) : Nat :=
  let ds := ds.take 9
  ds.foldl (fun n c => n * 10 + (c.toNat - 48)) 0 * Nat.pow 10 (9 - ds.length)

def Time.read (s : List Char) : Option (Time × List Char) := do
  let ((hour, minute), s) ← hourMinute s
  let s ← pass ':' s
  let (second, s) ← fixedDigits 2 0 s
  if 60 < second then none
  else
    match s with
    | '.' :: r =>
      let ds := r.takeWhile Char.isDigit
      if ds.isEmpty then some (⟨hour, minute, second, 0⟩, s)
      else some (⟨hour, minute, second, nanoseconds ds⟩, r.dropWhile Char.isDigit)
    | s => some (⟨hour, minute, second, 0⟩, s)

def Offset.read : List Char → Option (Offset × List Char)
  | 'Z' :: r | 'z' :: r => some (.universal, r)
  | '+' :: r => (hourMinute r).map fun e => (.minutes (e.1.1 * 60 + e.1.2), e.2)
  | '-' :: r => (hourMinute r).map fun e => (.minutes (-(e.1.1 * 60 + e.1.2 : Nat)), e.2)
  | _ => none

/-- Reads what follows a date: a time of day behind a `T` or a blank, then an offset. -/
def afterDate (d : Date) (s : List Char) : Moment × List Char :=
  let timed := match s with
    | 'T' :: r | 't' :: r | ' ' :: r => Time.read r
    | _ => none
  match timed with
  | none => (⟨some d, none, none⟩, s)
  | some (t, r) =>
    match Offset.read r with
    | some (o, r) => (⟨some d, some t, some o⟩, r)
    | none => (⟨some d, some t, none⟩, r)

/-- Reads a date, a time of day or both. -/
def Moment.read (s : List Char) : Option (Moment × List Char) :=
  match Date.read s with
  | some (d, r) => some (afterDate d r)
  | none => (Time.read s).map fun e => (⟨none, some e.1, none⟩, e.2)

end UrlMask.Toml
