import UrlMask.Toml.Lexis
import UrlMask.Toml.Moment
import UrlMask.Toml.Number
import UrlMask.Toml.Table

/-!
# Reading TOML

* `Toml.parse?`: the table of a document.
-/
namespace UrlMask.Toml

namespace Reader

open Lexis

/-- Reads a number, a date or a time. -/
def scalar (s : List Char) : Option (Toml × List Char) :=
  match Moment.read s with
  | some (m, r) => some (.moment m, r)
  | none => Number.read s

mutual

/-- Reads a value. `depth` is the number of brackets around it; `fuel` is to be more than twice the
length of the text. -/
def value : Nat → Nat → List Char → Option (Toml × List Char)
  | 0, _, _ => none
  | fuel + 1, depth, s =>
    match s with
    | '"' :: _ | '\'' :: _ => (Lexis.string s).map fun t => (.string (String.ofList t.1), t.2)
    | '[' :: r =>
      if depthLimit ≤ depth + 1 then none
      else (items fuel (depth + 1) r).map fun e => (.array e.1, e.2)
    | '\x7b' :: r =>
      if depthLimit ≤ depth + 1 then none
      else
        (inlineTable fuel (depth + 1) r).bind fun e =>
          (Node.insertAll e.1 []).map fun es => ((Node.table .header es).toToml, e.2)
    | 't' :: 'r' :: 'u' :: 'e' :: r => some (.boolean true, r)
    | 'f' :: 'a' :: 'l' :: 's' :: 'e' :: r => some (.boolean false, r)
    | _ => scalar s

/-- Reads the items of an array up to its closing bracket. -/
def items : Nat → Nat → List Char → Option (List Toml × List Char)
  | 0, _, _ => none
  | fuel + 1, depth, s =>
    match skipSpace s with
    | ']' :: r => some ([], r)
    | s =>
      match value fuel depth s with
      | none => none
      | some (v, r) =>
        match skipSpace r with
        | ',' :: r => (items fuel depth r).map fun e => (v :: e.1, e.2)
        | ']' :: r => some ([v], r)
        | _ => none

/-- Reads the entries of a table in braces, from the opening brace on. -/
def inlineTable : Nat → Nat → List Char → Option (List (List String × Toml) × List Char)
  | 0, _, _ => none
  | fuel + 1, depth, s =>
    match skipBlanks s with
    | '\x7d' :: r => some ([], r)
    | s => inlineEntries fuel depth s

/-- Reads entries up to the closing brace, at least one. -/
def inlineEntries : Nat → Nat → List Char → Option (List (List String × Toml) × List Char)
  | 0, _, _ => none
  | fuel + 1, depth, s =>
    match entry fuel depth s with
    | none => none
    | some (e, r) =>
      match skipBlanks r with
      | ',' :: r => (inlineEntries fuel depth r).map fun es => (e :: es.1, es.2)
      | '\x7d' :: r => some ([e], r)
      | _ => none

/-- Reads a key and its value. -/
def entry : Nat → Nat → List Char → Option ((List String × Toml) × List Char)
  | 0, _, _ => none
  | fuel + 1, depth, s =>
    match keyPath s with
    | some (path, '=' :: r) =>
      match value fuel depth (skipBlanks r) with
      | some (v, r) => some ((path, v), r)
      | none => none
    | _ => none

end

/-- Reads a header and the rest of its line. -/
def header (s : List Char) : Option (Header × List Char) :=
  match s with
  | '[' :: '[' :: r =>
    match keyPath r with
    | some (path, ']' :: ']' :: r) => (lineEnd r).map (.element path, ·)
    | _ => none
  | '[' :: r =>
    match keyPath r with
    | some (path, ']' :: r) => (lineEnd r).map (.table path, ·)
    | _ => none
  | _ => none

/-- Reads an entry and the rest of its line. -/
def entryLine (s : List Char) : Option ((List String × Toml) × List Char) :=
  (entry (4 * s.length + 4) 0 s).bind fun e => (lineEnd e.2).map (e.1, ·)

/-- What stands on the lines of a document: entries before the first header, then sections. -/
abbrev Lines := List (List String × Toml) × List Section

/-- Reads lines to the end. Every step passes a line. -/
def lines : Nat → List Char → Option Lines
  | 0, _ => none
  | fuel + 1, s =>
    match skipBlanks s with
    | [] => some ([], [])
    | '[' :: r =>
      match header ('[' :: r) with
      | none => none
      | some (h, r) => (lines fuel r).map fun l => ([], ⟨h, l.1⟩ :: l.2)
    | c :: r =>
      if c = '#' ∨ c = '\n' ∨ c = '\r' then (lineEnd (c :: r)).bind (lines fuel)
      else
        match entryLine (c :: r) with
        | none => none
        | some (e, r) => (lines fuel r).map fun l => (e :: l.1, l.2)

end Reader

/-- A mark of the byte order, which may stand at the start of a text. -/
def byteOrderMark : Char := Char.ofNat 0xFEFF

/-- Reads a document; none if it is not TOML. -/
def parse? (text : List Char) : Option Toml :=
  let text := if text.head? = some byteOrderMark then text.tail else text
  (Reader.lines (text.length + 1) text).bind fun l => assemble l.1 l.2

end UrlMask.Toml
