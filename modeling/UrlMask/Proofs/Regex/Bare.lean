import UrlMask.Regex.Meaning
import UrlMask.Regex.Parser

/-!
# Trees without places

Where a tree was read, and how its capture groups are counted and named, has no part in what it
describes. `bare` takes both away. Two readings of one text at different places give trees that
are equal when bare, and so regexes that describe the same spans.

* `Ast.meaning_bare`: a bare tree means what the tree means, without captures.
* `matches_bare`: captures do not change the spans that a regex describes.
* `Ast.tooDeep_bare`: a bare tree is as deep as the tree.
-/
namespace UrlMask.Regex

/-! ## Bare trees -/

def Span.none : Span := ⟨0, 0⟩

def Literal.bare (l : Literal) : Literal := { l with span := .none }

def PropertyClass.bare (c : PropertyClass) : PropertyClass := { c with span := .none }

def Shorthand.bare (c : Shorthand) : Shorthand := { c with span := .none }

def Symbol.bare : Symbol → Symbol
  | literal l => .literal l.bare
  | assertion _ k => .assertion .none k
  | dot _ => .dot .none
  | property c => .property c.bare
  | shorthand c => .shorthand c.bare

def ClassTree.bare : ClassTree → ClassTree
  | empty _ => .empty .none
  | literal l => .literal l.bare
  | range _ lo hi => .range .none lo.bare hi.bare
  | posix _ kind negated => .posix .none kind negated
  | property c => .property c.bare
  | shorthand c => .shorthand c.bare
  | bracketed _ negated body => .bracketed .none negated body.bare
  | union _ items => .union .none (items.map bare)
  | op _ kind lhs rhs => .op .none kind lhs.bare rhs.bare

/-- A group that only groups, under the same flags. -/
def GroupKind.bare : GroupKind → GroupKind
  | capture _ _ => .plain []
  | plain s => .plain s

def Ast.bare : Ast → Ast
  | empty _ => .empty .none
  | flags _ s => .flags .none s
  | literal l => .literal l.bare
  | dot _ => .dot .none
  | assertion _ k => .assertion .none k
  | property c => .property c.bare
  | shorthand c => .shorthand c.bare
  | bracketed _ negated body => .bracketed .none negated body.bare
  | repetition _ min max greedy body => .repetition .none min max greedy body.bare
  | group _ kind body => .group .none kind.bare body.bare
  | alternation _ branches => .alternation .none (branches.map bare)
  | concat _ items => .concat .none (items.map bare)

@[simp] theorem Symbol.toAst_bare (s : Symbol) : s.toAst.bare = s.bare.toAst := by
  cases s <;> simp [toAst, bare, Ast.bare]

@[simp] theorem Ast.isRepeatable_bare (a : Ast) : a.bare.isRepeatable = a.isRepeatable := by
  cases a <;> simp [bare, isRepeatable]

/-- A regex that captures nothing. -/
def bare : Regex → Regex
  | empty => .empty
  | set s => .set s
  | look k => .look k
  | seq r s => .seq r.bare s.bare
  | alt r s => .alt r.bare s.bare
  | group _ r => .group none r.bare
  | .repeat min max greedy r => .repeat min max greedy r.bare

/-! ## Meanings -/

theorem toOption_bind {ε α β : Type} (x : Except ε α) (f : α → Except ε β) :
    (x >>= f).toOption = x.toOption.bind fun a => (f a).toOption := by
  cases x <;> rfl

@[simp] theorem toOption_ok {ε α : Type} (a : α) : (Except.ok a : Except ε α).toOption = some a :=
  rfl

/-- A condition under which there is a value does not ask which fault there is else. -/
theorem toOption_ite_error {α : Type} (p : Prop) [Decidable p] (x : Except Fault α) (e : Fault) :
    (if p then x else .error e).toOption = if p then x.toOption else none := by
  split <;> rfl

theorem toOption_error_ite {α : Type} (p : Prop) [Decidable p] (x : Except Fault α) (e : Fault) :
    (if p then .error e else x).toOption = if p then none else x.toOption := by
  split <;> rfl

theorem Flags.negate_span (f : Flags) (s t : Span) (b : Bool) (c : CharSet) :
    (f.negate s b c).toOption = (f.negate t b c).toOption := by
  unfold negate
  split
  · rfl
  · simp only [toOption_ite_error]

theorem Literal.classCode_bare (f : Flags) (l : Literal) :
    (l.bare.classCode f).toOption = (l.classCode f).toOption :=
  (toOption_ite_error _ _ _).trans (toOption_ite_error _ _ _).symm

theorem Shorthand.chars_bare (f : Flags) (c : Shorthand) :
    (c.bare.chars f).toOption = (c.chars f).toOption :=
  f.negate_span _ _ _ _

theorem PropertyClass.chars_bare (f : Flags) (c : PropertyClass) :
    (c.bare.chars f).toOption = (c.chars f).toOption := by
  simp only [chars, bare]
  split
  · cases c.query.resolve with
    | ok s => exact f.negate_span _ _ _ _
    | error cause => rfl
  · rfl

mutual

theorem ClassTree.chars_bare (f : Flags) : (t : ClassTree) →
    (t.bare.chars f).toOption = (t.chars f).toOption
  | .empty _ => by simp [bare, chars]
  | .literal l => by simp only [bare, chars, toOption_bind, l.classCode_bare]
  | .range _ lo hi => by
    simp only [bare, chars, toOption_bind, lo.classCode_bare, hi.classCode_bare]
  | .posix _ kind negated => by simp only [bare, chars]; exact f.negate_span _ _ _ _
  | .property c => by simp only [bare, chars, c.chars_bare]
  | .shorthand c => by simp only [bare, chars, c.chars_bare]
  | .bracketed span negated body => by
    simp only [bare, chars, toOption_bind, body.chars_bare f, f.negate_span _ span]
  | .union _ items => by simp only [bare, chars]; exact ClassTree.charsList_bare f items
  | .op _ kind lhs rhs => by
    simp only [bare, chars, toOption_bind, lhs.chars_bare f, rhs.chars_bare f]

theorem ClassTree.charsList_bare (f : Flags) : (ts : List ClassTree) →
    (chars.charsList f (ts.map bare)).toOption = (chars.charsList f ts).toOption
  | [] => by simp [chars.charsList]
  | t :: ts => by
    simp only [List.map_cons, chars.charsList, toOption_bind, t.chars_bare f,
      ClassTree.charsList_bare f ts]

end

/-- The regex without captures, and the flags. -/
def bareResult (r : Regex × Flags) : Regex × Flags := (r.1.bare, r.2)

theorem Literal.meaning_bare (f : Flags) (l : Literal) :
    (l.bare.meaning f).toOption = (l.meaning f).toOption.map Regex.bare := by
  unfold meaning
  split
  · rfl
  · refine (toOption_error_ite _ _ _).trans ?_
    rw [toOption_error_ite]
    by_cases h : (l.isByte && decide (l.char.toNat ≥ 0x80)) = true <;> simp [bare, h, Regex.bare]

theorem GroupKind.flags_bare (f : Flags) (k : GroupKind) : k.bare.flags f = k.flags f := by
  cases k <;> rfl

theorem GroupKind.capture?_bare (k : GroupKind) : k.bare.capture? = none := by
  cases k <;> rfl

theorem map_bind_ok {α : Type} (o : Option α) (g : α → Regex) (f : Flags) :
    (o.bind fun a => (Except.ok (g a, f) : Except Fault _).toOption).map bareResult =
      o.bind fun a => (Except.ok ((g a).bare, f) : Except Fault _).toOption := by
  cases o <;> rfl

mutual

theorem Ast.meaning_bare (f : Flags) : (a : Ast) →
    (a.bare.meaning f).toOption = (a.meaning f).toOption.map bareResult
  | .empty _ => by simp only [bare, meaning]; rfl
  | .flags _ s => by simp only [bare, meaning]; rfl
  | .literal l => by
    simp only [bare, meaning, toOption_bind, l.meaning_bare]
    cases (l.meaning f).toOption <;> rfl
  | .dot span => by
    simp only [bare, meaning]
    split <;> rfl
  | .assertion _ k => by simp only [bare, meaning]; rfl
  | .property c => by
    simp only [bare, meaning, toOption_bind, c.chars_bare, map_bind_ok, Regex.bare]
  | .shorthand c => by
    simp only [bare, meaning, toOption_bind, c.chars_bare, map_bind_ok, Regex.bare]
  | .bracketed span negated body => by
    simp only [bare, meaning, toOption_bind, body.chars_bare, f.negate_span _ span]
    cases (body.chars f).toOption with
    | none => rfl
    | some s => simp only [Option.bind_some, map_bind_ok, Regex.bare]
  | .repetition _ min max greedy body => by
    simp only [bare, meaning, toOption_bind, body.meaning_bare f]
    cases (body.meaning f).toOption <;> rfl
  | .group _ kind body => by
    simp only [bare, meaning, toOption_bind, kind.flags_bare, kind.capture?_bare,
      body.meaning_bare (kind.flags f)]
    cases (body.meaning (kind.flags f)).toOption <;> rfl
  | .alternation _ branches => by simp only [bare, meaning]; exact Ast.meaningAlt_bare f branches
  | .concat _ items => by simp only [bare, meaning]; exact Ast.meaningSeq_bare f items

theorem Ast.meaningAlt_bare (f : Flags) : (as : List Ast) →
    (meaning.meaningAlt f (as.map bare)).toOption =
      (meaning.meaningAlt f as).toOption.map bareResult
  | [] => by simp only [List.map_nil, meaning.meaningAlt]; rfl
  | [a] => by simp only [List.map_cons, List.map_nil, meaning.meaningAlt, a.meaning_bare f]
  | a :: b :: as => by
    have ih (g : Flags) := Ast.meaningAlt_bare g (b :: as)
    simp only [List.map_cons] at ih
    simp only [List.map_cons, meaning.meaningAlt, toOption_bind, a.meaning_bare f]
    cases (a.meaning f).toOption with
    | none => rfl
    | some r =>
      obtain ⟨r, g⟩ := r
      simp only [Option.map_some, bareResult, Option.bind_some, ih]
      cases (meaning.meaningAlt g (b :: as)).toOption <;> rfl

theorem Ast.meaningSeq_bare (f : Flags) : (as : List Ast) →
    (meaning.meaningSeq f (as.map bare)).toOption =
      (meaning.meaningSeq f as).toOption.map bareResult
  | [] => by simp only [List.map_nil, meaning.meaningSeq]; rfl
  | [a] => by simp only [List.map_cons, List.map_nil, meaning.meaningSeq, a.meaning_bare f]
  | a :: b :: as => by
    have ih (g : Flags) := Ast.meaningSeq_bare g (b :: as)
    simp only [List.map_cons] at ih
    simp only [List.map_cons, meaning.meaningSeq, toOption_bind, a.meaning_bare f]
    cases (a.meaning f).toOption with
    | none => rfl
    | some r =>
      obtain ⟨r, g⟩ := r
      simp only [Option.map_some, bareResult, Option.bind_some, ih]
      cases (meaning.meaningSeq g (b :: as)).toOption <;> rfl

end

/-! ## Spans -/

theorem matches_bare_of_matches {r : Regex} {b u a : List Char} (h : Matches r b u a) :
    Matches r.bare b u a := by
  induction h with
  | empty => exact .empty
  | set h => exact .set h
  | look h => exact .look h
  | seq _ _ ih₁ ih₂ => exact .seq ih₁ ih₂
  | altLeft _ ih => exact .altLeft ih
  | altRight _ ih => exact .altRight ih
  | group _ ih => exact .group ih
  | none => exact .none
  | more hm _ _ ih₁ ih₂ => exact .more hm ih₁ ih₂

theorem matches_of_matches_bare {r' : Regex} {b u a : List Char} (h : Matches r' b u a) :
    ∀ r : Regex, r.bare = r' → Matches r b u a := by
  induction h with
  | empty => intro r hr; cases r <;> cases hr; exact .empty
  | set h => intro r hr; cases r <;> cases hr; exact .set h
  | look h => intro r hr; cases r <;> cases hr; exact .look h
  | seq _ _ ih₁ ih₂ => intro r hr; cases r <;> cases hr; exact .seq (ih₁ _ rfl) (ih₂ _ rfl)
  | altLeft _ ih => intro r hr; cases r <;> cases hr; exact .altLeft (ih _ rfl)
  | altRight _ ih => intro r hr; cases r <;> cases hr; exact .altRight (ih _ rfl)
  | group _ ih => intro r hr; cases r <;> cases hr; exact .group (ih _ rfl)
  | none => intro r hr; cases r <;> cases hr; exact .none
  | more hm _ _ ih₁ ih₂ =>
    intro r hr; cases r <;> cases hr
    exact .more hm (ih₁ _ rfl) (ih₂ _ rfl)

/-- Captures do not change the spans that a regex describes. -/
theorem matches_bare (r : Regex) (b u a : List Char) : Matches r.bare b u a ↔ Matches r b u a :=
  ⟨fun h => matches_of_matches_bare h r rfl, matches_bare_of_matches⟩

/-! ## Nesting -/

theorem ite_isSome_bare {p : Prop} [Decidable p] {x y : Option Span} {s t : Span}
    (h : x.isSome = y.isSome) :
    (if p then x else some s).isSome = (if p then y else some t).isSome := by
  split
  · exact h
  · rfl

mutual

theorem ClassTree.tooDeep_bare (limit d : Nat) : (t : ClassTree) →
    (t.bare.tooDeep limit d).isSome = (t.tooDeep limit d).isSome
  | .empty _ | .literal _ | .range _ _ _ | .posix _ _ _ | .property _ | .shorthand _ => by
    simp [bare, tooDeep]
  | .bracketed _ _ body => by
    simp only [bare, tooDeep]
    exact ite_isSome_bare (body.tooDeep_bare limit (d + 1))
  | .union _ items => by
    simp only [bare, tooDeep]
    exact ite_isSome_bare (ClassTree.tooDeepList_bare limit (d + 1) items)
  | .op _ _ lhs rhs => by
    simp only [bare, tooDeep]
    refine ite_isSome_bare ?_
    simp only [Option.isSome_or, lhs.tooDeep_bare limit (d + 1), rhs.tooDeep_bare limit (d + 1)]

theorem ClassTree.tooDeepList_bare (limit d : Nat) : (ts : List ClassTree) →
    (tooDeep.tooDeepList limit d (ts.map bare)).isSome = (tooDeep.tooDeepList limit d ts).isSome
  | [] => rfl
  | t :: ts => by
    simp only [List.map_cons, tooDeep.tooDeepList, Option.isSome_or, t.tooDeep_bare limit d,
      ClassTree.tooDeepList_bare limit d ts]

end

mutual

/-- A bare tree is too deep if the tree is. -/
theorem Ast.tooDeep_bare (limit d : Nat) : (a : Ast) →
    (a.bare.tooDeep limit d).isSome = (a.tooDeep limit d).isSome
  | .empty _ | .flags _ _ | .literal _ | .dot _ | .assertion _ _ | .property _ | .shorthand _ => by
    simp [bare, tooDeep]
  | .bracketed _ _ body => by
    simp only [bare, tooDeep]
    exact ite_isSome_bare (body.tooDeep_bare limit (d + 1))
  | .repetition _ _ _ _ body => by
    simp only [bare, tooDeep]
    exact ite_isSome_bare (body.tooDeep_bare limit (d + 1))
  | .group _ _ body => by
    simp only [bare, tooDeep]
    exact ite_isSome_bare (body.tooDeep_bare limit (d + 1))
  | .alternation _ branches => by
    simp only [bare, tooDeep]
    exact ite_isSome_bare (Ast.tooDeepList_bare limit (d + 1) branches)
  | .concat _ items => by
    simp only [bare, tooDeep]
    exact ite_isSome_bare (Ast.tooDeepList_bare limit (d + 1) items)

theorem Ast.tooDeepList_bare (limit d : Nat) : (as : List Ast) →
    (tooDeep.tooDeepList limit d (as.map bare)).isSome = (tooDeep.tooDeepList limit d as).isSome
  | [] => rfl
  | a :: as => by
    simp only [List.map_cons, tooDeep.tooDeepList, Option.isSome_or, a.tooDeep_bare limit d,
      Ast.tooDeepList_bare limit d as]

end

end UrlMask.Regex
