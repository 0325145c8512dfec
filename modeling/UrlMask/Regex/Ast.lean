/-!
# Regex syntax trees

What a regex says, as written: every node keeps the span of text it was read from, so that a
later complaint can point at it. Flags are kept where they stand; `Regex.Meaning` applies them.
-/
namespace UrlMask.Regex

/-- A span of a pattern, from `start` up to but not including `stop`, in characters. -/
structure Span where
  start : Nat
  stop : Nat
  deriving DecidableEq, Repr

/-- The switches that `(?flags)` and `(?flags:...)` turn on and off. -/
inductive Flag where
  | ignoreCase
  | multiLine
  | dotNewline
  | swapGreed
  | unicode
  | crlf
  | verbose
  deriving DecidableEq, Repr

/-- The flags of one group, each with the state it is set to, in order. -/
abbrev FlagSetting := List (Flag × Bool)

/-- Zero-width assertions. -/
inductive Assertion where
  | startLine
  | endLine
  | startText
  | endText
  | word
  | notWord
  | wordStart
  | wordEnd
  | wordStartHalf
  | wordEndHalf
  deriving DecidableEq, Repr

/-- A character, written plainly or escaped. -/
structure Literal where
  span : Span
  char : Char
  /-- Written as two hexadecimal digits, which can also name a byte. -/
  isByte : Bool
  deriving DecidableEq, Repr

/-- What stands between the braces of `\p`. -/
inductive PropertyQuery where
  | name (name : String)
  | value (property value : String)
  deriving DecidableEq, Repr

/-- A class named by its property: `\pL`, `\p{Greek}`, `\P{sc=Han}`. -/
structure PropertyClass where
  span : Span
  negated : Bool
  query : PropertyQuery
  deriving DecidableEq, Repr

/-- The kinds of `\d`, `\s` and `\w`. -/
inductive ShorthandKind where
  | digit
  | space
  | word
  deriving DecidableEq, Repr

/-- One of `\d`, `\s`, `\w` and their negations `\D`, `\S`, `\W`. -/
structure Shorthand where
  span : Span
  kind : ShorthandKind
  negated : Bool
  deriving DecidableEq, Repr

/-- The names that `[:name:]` knows. -/
inductive PosixKind where
  | alnum
  | alpha
  | ascii
  | blank
  | cntrl
  | digit
  | graph
  | lower
  | print
  | punct
  | space
  | upper
  | word
  | xdigit
  deriving DecidableEq, Repr

/-- The operators of bracketed classes: `&&`, `--` and `~~`. -/
inductive SetOp where
  | inter
  | diff
  | symmDiff
  deriving DecidableEq, Repr

/-- The inside of a bracketed class. -/
inductive ClassTree where
  | empty (span : Span)
  | literal (lit : Literal)
  | range (span : Span) (lo hi : Literal)
  | posix (span : Span) (kind : PosixKind) (negated : Bool)
  | property (cls : PropertyClass)
  | shorthand (cls : Shorthand)
  | bracketed (span : Span) (negated : Bool) (body : ClassTree)
  | union (span : Span) (items : List ClassTree)
  | op (span : Span) (kind : SetOp) (lhs rhs : ClassTree)
  deriving Repr

namespace ClassTree

def span : ClassTree → Span
  | empty s | range s _ _ | posix s _ _ | bracketed s _ _ | union s _ | op s _ _ _ => s
  | literal l => l.span
  | property c => c.span
  | shorthand c => c.span

end ClassTree

/-- What a pair of round brackets does besides grouping. -/
inductive GroupKind where
  | capture (index : Nat) (name : Option String)
  | plain (flags : FlagSetting)
  deriving DecidableEq, Repr

/-- The syntax tree of a regex. -/
inductive Ast where
  | empty (span : Span)
  | flags (span : Span) (setting : FlagSetting)
  | literal (lit : Literal)
  | dot (span : Span)
  | assertion (span : Span) (kind : Assertion)
  | property (cls : PropertyClass)
  | shorthand (cls : Shorthand)
  | bracketed (span : Span) (negated : Bool) (body : ClassTree)
  | repetition (span : Span) (min : Nat) (max : Option Nat) (greedy : Bool) (body : Ast)
  | group (span : Span) (kind : GroupKind) (body : Ast)
  | alternation (span : Span) (branches : List Ast)
  | concat (span : Span) (items : List Ast)
  deriving Repr

namespace Ast

def span : Ast → Span
  | empty s | flags s _ | dot s | assertion s _ | bracketed s _ _ | repetition s _ _ _ _
  | group s _ _ | alternation s _ | concat s _ => s
  | literal l => l.span
  | property c => c.span
  | shorthand c => c.span

/-- Whether a repetition operator can follow. -/
def isRepeatable : Ast → Bool
  | empty _ | flags _ _ => false
  | _ => true

end Ast

/-! ## Nesting -/

/-- The first node, in reading order, that lies deeper than `limit` inside brackets. `depth` is
the number of brackets and operators around the class. -/
def ClassTree.tooDeep (limit depth : Nat) : ClassTree → Option Span
  | .bracketed s _ body =>
    if depth < limit then body.tooDeep limit (depth + 1) else some s
  | .union s items =>
    if depth < limit then tooDeepList limit (depth + 1) items else some s
  | .op s _ lhs rhs =>
    if depth < limit then
      (lhs.tooDeep limit (depth + 1)).or (rhs.tooDeep limit (depth + 1))
    else some s
  | _ => none
where
  tooDeepList (limit depth : Nat) : List ClassTree → Option Span
    | [] => none
    | t :: r => (t.tooDeep limit depth).or (tooDeepList limit depth r)

/-- The first node, in reading order, that lies deeper than `limit`. Groups, classes,
repetitions, alternations and sequences count. -/
def Ast.tooDeep (limit depth : Nat) : Ast → Option Span
  | .bracketed s _ body =>
    if depth < limit then body.tooDeep limit (depth + 1) else some s
  | .repetition s _ _ _ body => if depth < limit then body.tooDeep limit (depth + 1) else some s
  | .group s _ body => if depth < limit then body.tooDeep limit (depth + 1) else some s
  | .alternation s branches =>
    if depth < limit then tooDeepList limit (depth + 1) branches else some s
  | .concat s items => if depth < limit then tooDeepList limit (depth + 1) items else some s
  | _ => none
where
  tooDeepList (limit depth : Nat) : List Ast → Option Span
    | [] => none
    | t :: r => (t.tooDeep limit depth).or (tooDeepList limit depth r)

end UrlMask.Regex
