import UrlMask.Url.Form

/-!
# Numeric addresses

An IPv4 address is written as up to four numbers, decimal, octal or hexadecimal, of which the
last one fills the remaining bytes. An IPv6 address is written as eight pieces of sixteen bits,
of which one run of zeros may be left out and the last two may be written as IPv4 numbers.
-/
namespace UrlMask

namespace Ipv4

def isOctal (c : Char) : Bool := '0' ≤ c && c ≤ '7'

def isHex (c : Char) : Bool := c.isDigit || ('a' ≤ c && c ≤ 'f') || ('A' ≤ c && c ≤ 'F')

def digitValue (c : Char) : Nat :=
  if c.isDigit then c.toNat - 48 else if 'a' ≤ c then c.toNat - 87 else c.toNat - 55

/-- The digits of a number and its base. -/
def baseOf : List Char → Nat × List Char
  | '0' :: 'x' :: r | '0' :: 'X' :: r => (16, r)
  | '0' :: c :: r => (8, c :: r)
  | s => (10, s)

/-- A part of an address, as a number. -/
def number? (s : List Char) : Option Nat :=
  if s.isEmpty then none
  else
    let (base, ds) := baseOf s
    let ok := if base = 16 then ds.all isHex else if base = 8 then ds.all isOctal
      else ds.all Char.isDigit
    if ok then some (ds.foldl (fun n d => n * base + digitValue d) 0) else none

/-- The parts of a host name, without an empty one at the end. -/
def parts (host : List Char) : List (List Char) :=
  let ps := Form.splitOn '.' host
  if ps.getLast? == some [] then ps.dropLast else ps

/-- Whether a host name is meant as an address: its last part is a number. -/
def isMeant (host : List Char) : Bool :=
  match (parts host).getLast? with
  | some p => (!p.isEmpty && p.all Char.isDigit) || (number? p).isSome
  | none => false

/-- The address that the numbers stand for, as one number of 32 bits. -/
def combine : Nat → List Nat → Option Nat
  | _, [] => none
  | room, [n] => if n < room then some n else none
  | room, n :: ns =>
    if n < 256 then (combine (room / 256) ns).map (n * (room / 256) + ·) else none

def parse (host : List Char) : Option Nat :=
  let ps := parts host
  if 4 < ps.length then none else (ps.mapM number?).bind (combine (Nat.pow 2 32))

def text (a : Nat) : List Char :=
  [a / Nat.pow 2 24, a / Nat.pow 2 16 % 256, a / Nat.pow 2 8 % 256, a % 256].map (Nat.toDigits 10) |>
    List.intersperse ['.'] |>.flatten

end Ipv4

namespace Ipv6

/-- The reader between two pieces: those read, latest first, and the number of them that lay
before the left-out run, if one has been met. -/
structure Reader where
  pieces : List Nat
  gap : Option Nat

/-- A decimal number up to 255 without a leading zero. -/
def byte? (s : List Char) : Option Nat :=
  if s.isEmpty || !s.all Char.isDigit || (1 < s.length && s.head? == some '0') || 3 < s.length
  then none
  else
    let n := s.foldl (fun n d => n * 10 + Ipv4.digitValue d) 0
    if n < 256 then some n else none

/-- The two pieces that four decimal numbers stand for. -/
def tail4? (s : List Char) : Option (List Nat) :=
  match (Form.splitOn '.' s).mapM byte? with
  | some [a, b, c, d] => some [a * 256 + b, c * 256 + d]
  | _ => none

/-- Reads the pieces that follow. Each step passes a character. -/
def readFrom : Nat → Reader → List Char → Option Reader
  | _, r, [] => some r
  | 0, _, _ :: _ => none
  | fuel + 1, r, c :: s =>
    if r.pieces.length + (if r.gap.isSome then 1 else 0) ≥ 8 then none
    else if c = ':' then
      if r.gap.isSome then none else readFrom fuel ⟨r.pieces, some r.pieces.length⟩ s
    else
      let ds := ((c :: s).take 4).takeWhile Ipv4.isHex
      let rest := (c :: s).drop ds.length
      let value := ds.foldl (fun n d => n * 16 + Ipv4.digitValue d) 0
      match rest with
      | [] => some ⟨value :: r.pieces, r.gap⟩
      | '.' :: _ =>
        if ds.isEmpty || r.pieces.length + (if r.gap.isSome then 1 else 0) > 6 then none
        else (tail4? (c :: s)).map fun ps => ⟨ps.reverse ++ r.pieces, r.gap⟩
      | ':' :: s' => if s'.isEmpty then none else readFrom fuel ⟨value :: r.pieces, r.gap⟩ s'
      | _ => none

/-- The eight pieces of an address. -/
def parse (s : List Char) : Option (List Nat) :=
  let start : Option (Reader × List Char) :=
    match s with
    | ':' :: ':' :: r => some (⟨[], some 0⟩, r)
    | ':' :: _ | [] | [_] => none
    | _ => some (⟨[], none⟩, s)
  match start with
  | none => none
  | some (r, s) =>
    match readFrom (s.length + 1) r s with
    | none => none
    | some ⟨ps, none⟩ => if ps.length = 8 then some ps.reverse else none
    | some ⟨ps, some n⟩ =>
      if ps.length < 8 then
        some (ps.reverse.take n ++ List.replicate (8 - ps.length) 0 ++ ps.reverse.drop n)
      else none

def pieceText (n : Nat) : List Char := Nat.toDigits 16 n

/-- The number of zeros at the start. -/
def zeros (ps : List Nat) : Nat := (ps.takeWhile (· == 0)).length

/-- The first longest run of zeros, as its start and length; `at'` counts the pieces before. -/
def longestRun (at' : Nat) : List Nat → Nat × Nat
  | [] => (0, 0)
  | p :: ps =>
    let later := longestRun (at' + 1) ps
    let here := zeros (p :: ps)
    if later.2 ≤ here then (at', here) else later

def joinColons (ps : List Nat) : List Char :=
  ((ps.map pieceText).intersperse [':']).flatten

/-- The address with the longest run of two or more zeros left out. -/
def text (ps : List Nat) : List Char :=
  let (start, len) := longestRun 0 ps
  if 2 ≤ len then joinColons (ps.take start) ++ ':' :: ':' :: joinColons (ps.drop (start + len))
  else joinColons ps

end Ipv6

end UrlMask
