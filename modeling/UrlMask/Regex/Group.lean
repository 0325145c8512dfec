import UrlMask.Regex.Escape
import UrlMask.Unicode.Category
import UrlMask.Unicode.Property

/-!
# What follows an opening bracket

`Group.readOpen` reads the head of a group: nothing, a name, or flags. Flags that are closed at
once set the flags of what follows; they make no group.
-/
namespace UrlMask.Regex

namespace Group

open Cursor (fail)

/-- The names of the capture groups read so far, each with its span, latest first. -/
structure Names where
  /-- The number of capture groups. -/
  count : Nat
  named : List (String × Span)

/-- The characters of a group name; `first` is for the first of them. -/
def isNameChar (first : Bool) (c : Char) : Bool :=
  c == '_' || Unicode.isAlphabetic c ||
    (!first && (c == '.' || c == '[' || c == ']' ||
      (Unicode.Category.set [.decimalNumber, .letterNumber, .otherNumber]).has c))

/-- The characters of a name, up to the closing angle bracket. -/
def nameChars (first : Bool) (pos : Nat) : List Char → Except Fault (List Char × Cursor)
  | [] => .ok ([], ⟨pos, []⟩)
  | ch :: r =>
    if ch = '>' then .ok ([], ⟨pos, ch :: r⟩)
    else if isNameChar first ch then do
      let (s, c) ← nameChars false (pos + 1) r
      .ok (ch :: s, c)
    else fail .groupNameInvalid ⟨pos, pos + 1⟩

/-- Reads the name of a capture group. The cursor is after the opening angle bracket. -/
def readName (names : Names) (c : Cursor) : Except Fault (String × Names × Cursor) := do
  if c.atEnd then fail .groupNameUnexpectedEnd c.span
  let start := c.pos
  let (s, c) ← nameChars true c.pos c.rest
  if c.atEnd then fail .groupNameUnexpectedEnd c.span
  let span := c.spanFrom start
  let c := c.advance
  if s.isEmpty then fail .groupNameEmpty ⟨start, start⟩
  let name := String.ofList s
  match names.named.find? (·.1 == name) with
  | some (_, earlier) => fail (.groupNameDuplicate earlier) span
  | none => .ok (name, ⟨names.count + 1, (name, span) :: names.named⟩, c)

def flagOf : Char → Option Flag
  | 'i' => some .ignoreCase
  | 'm' => some .multiLine
  | 's' => some .dotNewline
  | 'U' => some .swapGreed
  | 'u' => some .unicode
  | 'R' => some .crlf
  | 'x' => some .verbose
  | _ => none

/-- The flags read so far: each with its state and place, latest first, and the place of the
hyphen, if there was one. -/
structure Flags where
  items : List (Flag × Bool × Span)
  hyphen : Option Span
  /-- The hyphen, while no flag has followed it. -/
  dangling : Option Span

/-- Reads flags up to the colon or closing bracket that ends them. -/
def readFlags (pos : Nat) (fs : Flags) : List Char → Except Fault (FlagSetting × Cursor)
  | [] => fail .flagUnexpectedEnd ⟨pos, pos⟩
  | ch :: r =>
    let here : Span := ⟨pos, pos + 1⟩
    if ch = ':' ∨ ch = ')' then
      match fs.dangling with
      | some span => fail .flagDanglingNegation span
      | none => .ok (fs.items.reverse.map fun f => (f.1, f.2.1), ⟨pos, ch :: r⟩)
    else if ch = '-' then
      match fs.hyphen with
      | some earlier => fail (.flagRepeatedNegation earlier) here
      | none => readFlags (pos + 1) ⟨fs.items, some here, some here⟩ r
    else
      match flagOf ch with
      | none => fail .flagUnrecognized here
      | some f =>
        match fs.items.find? (·.1 == f) with
        | some (_, _, earlier) => fail (.flagDuplicate earlier) here
        | none => readFlags (pos + 1) ⟨(f, fs.hyphen.isNone, here) :: fs.items, fs.hyphen, none⟩ r

/-- The head of a group, or flags without a group. -/
inductive Head where
  | opened (span : Span) (kind : GroupKind)
  | setFlags (span : Span) (setting : FlagSetting)

/-- Whether the text is that of a look-around assertion; also gives the place after its mark. -/
def lookAround? (c : Cursor) : Option Cursor :=
  (c.eat? "?=").or ((c.eat? "?!").or ((c.eat? "?<=").or (c.eat? "?<!")))

/-- Reads the head of a group. The cursor is at the opening bracket. -/
def readOpen (verbose : Bool) (names : Names) (c : Cursor) :
    Except Fault (Head × Names × Cursor) := do
  let open' := c.charSpan
  let c := c.advanceSkip verbose
  match lookAround? c with
  | some c => fail .lookAround ⟨open'.start, c.pos⟩
  | none =>
    match (c.eat? "?P<").or (c.eat? "?<") with
    | some c =>
      let (name, names, c) ← readName names c
      .ok (.opened open' (.capture names.count (some name)), names, c)
    | none =>
      match c.eat? "?" with
      | none =>
        .ok (.opened open' (.capture (names.count + 1) none), ⟨names.count + 1, names.named⟩, c)
      | some inner =>
        if inner.atEnd then fail .groupUnclosed open'
        let (setting, last) ← readFlags inner.pos ⟨[], none, none⟩ inner.rest
        let after := last.advance
        if last.peek = some ')' then
          if setting.isEmpty then fail .repetitionMissing c.span
          else .ok (.setFlags (after.spanFrom open'.start) setting, names, after)
        else .ok (.opened open' (.plain setting), names, after)

end Group

end UrlMask.Regex
