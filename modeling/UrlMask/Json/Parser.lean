import UrlMask.Json.Number

/-!
# Reading JSON

`Json.parse` reads a text that holds one value and nothing else. Values may be nested 127 deep.
Of two members with one key the later counts.

* `Json.parse`: the value, or the first fault.
-/
namespace UrlMask.Json

namespace Reader

/-- The limit below which the depth of nesting has to stay. -/
def depthLimit : Nat := 128

def hexDigit? (c : Char) : Option Nat :=
  if c.isDigit then some (c.toNat - 48)
  else if 'a' ≤ c ∧ c ≤ 'f' then some (c.toNat - 87)
  else if 'A' ≤ c ∧ c ≤ 'F' then some (c.toNat - 55)
  else none

/-- The number of bytes of a text. -/
def byteLength (s : List Char) : Nat := s.foldl (fun n c => n + c.utf8Size) 0

/-- Reads four hexadecimal digits. -/
def hex4 (c : Cursor) : Except Fault (Nat × Cursor) :=
  match c.rest with
  | a :: b :: d :: e :: r =>
    match hexDigit? a, hexDigit? b, hexDigit? d, hexDigit? e with
    | some w, some x, some y, some z =>
      .ok (((w * 16 + x) * 16 + y) * 16 + z,
        ⟨(((c.place.after a).after b).after d).after e, r⟩)
    | _, _, _, _ => .error ⟨.invalidEscape, c.placeAfter 4⟩
  | s =>
    if 4 ≤ byteLength s then .error ⟨.invalidEscape, c.placeAfter 4⟩
    else .error ⟨.endInString, c.placeAfter 4⟩

/-- Reads the second half of a character beyond the sixteen-bit range. -/
def lowSurrogate (high : Nat) (c : Cursor) : Except Fault (Char × Cursor) := do
  let c ← expect '\\' c
  let c ← expect 'u' c
  let (low, c) ← hex4 c
  if low < 0xDC00 ∨ 0xDFFF < low then .error ⟨.loneSurrogate, c.place⟩
  else .ok (Char.ofNat ((high - 0xD800) * 1024 + (low - 0xDC00) + 0x10000), c)
where
  expect (ch : Char) (c : Cursor) : Except Fault Cursor :=
    match c.peek with
    | none => .error ⟨.endInString, c.place⟩
    | some x => if x = ch then .ok c.advance else .error ⟨.brokenSurrogate, c.blame⟩

/-- Reads an escape. The cursor is after the backslash. -/
def escape (c : Cursor) : Except Fault (Char × Cursor) :=
  match c.peek with
  | none => .error ⟨.endInString, c.place⟩
  | some ch =>
    match ch with
    | '"' => .ok ('"', c.advance)
    | '\\' => .ok ('\\', c.advance)
    | '/' => .ok ('/', c.advance)
    | 'b' => .ok ('\x08', c.advance)
    | 'f' => .ok ('\x0c', c.advance)
    | 'n' => .ok ('\n', c.advance)
    | 'r' => .ok ('\r', c.advance)
    | 't' => .ok ('\t', c.advance)
    | 'u' => do
      let (n, c) ← hex4 c.advance
      if 0xDC00 ≤ n ∧ n ≤ 0xDFFF then .error ⟨.loneSurrogate, c.place⟩
      else if 0xD800 ≤ n ∧ n ≤ 0xDBFF then lowSurrogate n c
      else .ok (Char.ofNat n, c)
    | _ => .error ⟨.invalidEscape, c.blame⟩

/-- Reads the characters of a string up to its closing quotation mark. -/
def string : Nat → Cursor → Except Fault (List Char × Cursor)
  | 0, c => .error ⟨.endInString, c.place⟩
  | fuel + 1, c =>
    match c.rest with
    | [] => .error ⟨.endInString, c.place⟩
    | ch :: r =>
      let next : Cursor := ⟨c.place.after ch, r⟩
      if ch = '"' then .ok ([], next)
      else if ch = '\\' then
        match escape next with
        | .error e => .error e
        | .ok (x, c) =>
          match string fuel c with
          | .error e => .error e
          | .ok (s, c) => .ok (x :: s, c)
      else if ch.toNat < 0x20 then .error ⟨.controlCharacter, c.blame⟩
      else
        match string fuel next with
        | .error e => .error e
        | .ok (s, c) => .ok (ch :: s, c)

/-- Reads the rest of a word whose first letter has been read. -/
def word (v : Json) : List Char → Cursor → Except Fault (Json × Cursor)
  | [], c => .ok (v, c)
  | w :: ws, c =>
    match c.peek with
    | none => .error ⟨.endInValue, c.place⟩
    | some x => if x = w then word v ws c.advance else .error ⟨.unknownWord, c.blame⟩

mutual

/-- Reads a value, after blanks. `depth` is the number of brackets around it. Every second step
passes a character, so `fuel` is to be twice the length of the text. -/
def value : Nat → Nat → Cursor → Except Fault (Json × Cursor)
  | 0, _, c => .error ⟨.missingValue, c.blame⟩
  | fuel + 1, depth, c =>
    let c := c.skip
    match c.peek with
    | none => .error ⟨.endInValue, c.blame⟩
    | some ch =>
      match ch with
      | 'n' => word .null ['u', 'l', 'l'] c.advance
      | 't' => word (.bool true) ['r', 'u', 'e'] c.advance
      | 'f' => word (.bool false) ['a', 'l', 's', 'e'] c.advance
      | '-' => Number.read true c.advance
      | '"' =>
        match string c.rest.length c.advance with
        | .error e => .error e
        | .ok (s, c) => .ok (.string (String.ofList s), c)
      | '[' =>
        if depthLimit ≤ depth + 1 then .error ⟨.tooDeep, c.blame⟩
        else
          match items fuel (depth + 1) true c.advance with
          | .error e => .error e
          | .ok (l, c) => .ok (.array l, c)
      | '\x7b' =>
        if depthLimit ≤ depth + 1 then .error ⟨.tooDeep, c.blame⟩
        else
          match members fuel (depth + 1) true c.advance with
          | .error e => .error e
          | .ok (l, c) => .ok (.object (Members.ofList l), c)
      | _ => if ch.isDigit then Number.read false c else .error ⟨.missingValue, c.blame⟩

/-- Reads the items of an array up to its closing bracket. -/
def items : Nat → Nat → Bool → Cursor → Except Fault (List Json × Cursor)
  | 0, _, _, c => .error ⟨.endInList, c.blame⟩
  | fuel + 1, depth, first, c =>
    let c := c.skip
    match c.peek with
    | none => .error ⟨.endInList, c.blame⟩
    | some ch =>
      if ch = ']' then .ok ([], c.advance)
      else
        let next : Except Fault Cursor :=
          if first then .ok c
          else if ch = ',' then
            let c := c.advance.skip
            match c.peek with
            | none => .error ⟨.endInValue, c.blame⟩
            | some x => if x = ']' then .error ⟨.trailingComma, c.blame⟩ else .ok c
          else .error ⟨.missingListComma, c.blame⟩
        match next with
        | .error e => .error e
        | .ok c =>
          match value fuel depth c with
          | .error e => .error e
          | .ok (v, c) =>
            match items fuel depth false c with
            | .error e => .error e
            | .ok (vs, c) => .ok (v :: vs, c)

/-- Reads the members of an object up to its closing brace. -/
def members : Nat → Nat → Bool → Cursor → Except Fault (List (String × Json) × Cursor)
  | 0, _, _, c => .error ⟨.endInObject, c.blame⟩
  | fuel + 1, depth, first, c =>
    let c := c.skip
    match c.peek with
    | none => .error ⟨.endInObject, c.blame⟩
    | some ch =>
      if ch = '\x7d' then .ok ([], c.advance)
      else
        let next : Except Fault Cursor :=
          if first then (if ch = '"' then .ok c else .error ⟨.keyNotString, c.blame⟩)
          else if ch = ',' then
            let c := c.advance.skip
            match c.peek with
            | none => .error ⟨.endInValue, c.blame⟩
            | some x =>
              if x = '"' then .ok c
              else if x = '\x7d' then .error ⟨.trailingComma, c.blame⟩
              else .error ⟨.keyNotString, c.blame⟩
          else .error ⟨.missingObjectComma, c.blame⟩
        match next with
        | .error e => .error e
        | .ok c =>
          match string c.rest.length c.advance with
          | .error e => .error e
          | .ok (k, c) =>
            let c := c.skip
            match c.peek with
            | none => .error ⟨.endInObject, c.blame⟩
            | some x =>
              if x = ':' then
                match value fuel depth c.advance with
                | .error e => .error e
                | .ok (v, c) =>
                  match members fuel depth false c with
                  | .error e => .error e
                  | .ok (ms, c) => .ok ((String.ofList k, v) :: ms, c)
              else .error ⟨.missingColon, c.blame⟩

end

end Reader

/-- Reads a text that holds one value. -/
def parse (text : List Char) : Except Fault Json :=
  match Reader.value (2 * text.length + 2) 0 (.ofText text) with
  | .error e => .error e
  | .ok (v, c) =>
    let c := c.skip
    if c.rest.isEmpty then .ok v else .error ⟨.trailingText, c.blame⟩

end UrlMask.Json
