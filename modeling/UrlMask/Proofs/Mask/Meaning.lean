import UrlMask.Mask.Basic
import UrlMask.Proofs.Mask.Reading
import UrlMask.Proofs.Regex.Ordered

/-!
# What the source of a mask means

The items of a source mean one after the other: each character itself, each section what its tree
means, `^` and `$` the ends of the text. No item changes the flags for the next.

* `Layout.meaning_literal`, `Layout.meaning_section`, `Layout.meaning_end`: the items.
* `Layout.matches_literal`, `Layout.matches_section`, `Layout.matches_end`: what they describe.
* `Mask.ofText_error`, `Mask.ofText_error_of_shallow`: a mask whose source means something is
  refused for a limit only, and only for its size if it is not too deep.
* `Mask.accepts_iff`: a mask accepts the texts that its items describe.
-/
namespace UrlMask

open Regex Regex.Parser

theorem CharSet.has_singleton (c d : Char) : (CharSet.singleton c).has d = true ↔ d = c := by
  simp only [has, mem, singleton, range, List.any_cons, List.any_nil, Interval.mem, Bool.or_false,
    Bool.and_eq_true, decide_eq_true_eq]
  constructor
  · rintro ⟨h₁, h₂⟩
    exact Char.ext (UInt32.toNat_inj.1 (Nat.le_antisymm h₂ h₁))
  · rintro rfl
    exact ⟨Nat.le_refl _, Nat.le_refl _⟩

namespace Regex

/-! ## Trees without places -/

theorem Ast.meaning_bare_ok {a : Ast} {f g : Flags} {r' : UrlMask.Regex} :
    a.bare.meaning f = .ok (r', g) ↔ ∃ r, a.meaning f = .ok (r, g) ∧ r' = r.bare := by
  have e := Ast.meaning_bare f a
  cases h : a.meaning f with
  | error x =>
    rw [h] at e
    cases h' : a.bare.meaning f with
    | error => simp
    | ok => rw [h'] at e; cases e
  | ok x =>
    obtain ⟨r, g'⟩ := x
    rw [h] at e
    cases h' : a.bare.meaning f with
    | error => rw [h'] at e; cases e
    | ok y =>
      rw [h'] at e
      simp only [Except.toOption, Option.map_some, Option.some.injEq, bareResult] at e
      subst e
      simp only [Except.ok.injEq, Prod.mk.injEq]
      constructor
      · rintro ⟨rfl, rfl⟩; exact ⟨r, ⟨rfl, rfl⟩, rfl⟩
      · rintro ⟨_, ⟨rfl, rfl⟩, rfl⟩; exact ⟨rfl, rfl⟩

theorem Ast.meaningSeq_cons {f : Flags} {a : Ast} {as : List Ast} (h : as ≠ []) :
    meaning.meaningSeq f (a :: as) = a.meaning f >>= fun x =>
      meaning.meaningSeq x.2 as >>= fun y => .ok (.seq x.1 y.1, y.2) := by
  cases as with
  | nil => exact absurd rfl h
  | cons b as => rfl

end Regex

namespace Layout

/-! ## Items -/

/-- `r` after a literal text. -/
def prefixed (l : List Char) (r : Regex) : Regex :=
  l.foldr (fun c r => .seq (.set (.singleton c)) r) r

theorem meaning_charTree (c : Char) :
    (charTree c).meaning .init = .ok (.set (.singleton c), .init) := rfl

theorem meaning_literal {l : List Char} {as : List Ast} (h : as ≠ []) :
    Ast.meaning.meaningSeq .init (l.map charTree ++ as) = Ast.meaning.meaningSeq .init as >>=
      fun x => .ok (prefixed l x.1, x.2) := by
  induction l with
  | nil => cases hx : Ast.meaning.meaningSeq .init as <;> simp [prefixed, hx, bind, Except.bind]
  | cons c l ih =>
    rw [List.map_cons, List.cons_append, Ast.meaningSeq_cons (by simp [h]), meaning_charTree]
    simp only [bind, Except.bind] at ih ⊢
    rw [ih]
    cases Ast.meaning.meaningSeq .init as <;> rfl

theorem meaning_section {a : Ast} {as : List Ast} (h : as ≠ []) :
    Ast.meaning.meaningSeq .init (sectionTree a :: as) = a.meaning .init >>= fun x =>
      Ast.meaning.meaningSeq .init as >>= fun y => .ok (.seq (.group none x.1) y.1, y.2) := by
  rw [Ast.meaningSeq_cons h, sectionTree, Ast.meaning]
  simp only [GroupKind.flags, Flags.apply, List.foldl_nil, GroupKind.capture?, bind, Except.bind]
  cases a.meaning .init <;> rfl

theorem meaning_end : Ast.meaning.meaningSeq .init [endTree] = .ok (.look .endText, .init) := rfl

/-! ## Spans -/

theorem matches_literal {l : List Char} {r : Regex} {b w a : List Char} :
    Matches (prefixed l r) b w a ↔ ∃ v, w = l ++ v ∧ Matches r (b ++ l) v a := by
  induction l generalizing b w with
  | nil => simp [prefixed]
  | cons c l ih =>
    have e : prefixed (c :: l) r = .seq (.set (.singleton c)) (prefixed l r) := rfl
    rw [e]
    constructor
    · intro h
      cases h with
      | seq h₁ h₂ =>
        cases h₁ with
        | set hc =>
          cases (CharSet.has_singleton _ _).1 hc
          obtain ⟨v, rfl, h⟩ := ih.1 h₂
          exact ⟨v, rfl, by simpa using h⟩
    · rintro ⟨v, rfl, h⟩
      have h₁ : Matches (.set (.singleton c)) b [c] (l ++ v ++ a) :=
        .set ((CharSet.has_singleton c c).2 rfl)
      exact Matches.seq (u := [c]) (v := l ++ v) h₁ (ih.2 ⟨v, rfl, by simpa using h⟩)

theorem matches_section {r s : Regex} {b w a : List Char} :
    Matches (.seq (.group none r) s) b w a ↔
      ∃ u v, w = u ++ v ∧ Matches r b u (v ++ a) ∧ Matches s (b ++ u) v a := by
  constructor
  · intro h
    cases h with
    | seq h₁ h₂ =>
      cases h₁ with
      | group h₁ => exact ⟨_, _, rfl, h₁, h₂⟩
  · rintro ⟨u, v, rfl, h₁, h₂⟩
    exact .seq (.group h₁) h₂

theorem matches_end {b w a : List Char} :
    Matches (.look .endText) b w a ↔ w = [] ∧ a = [] := by
  constructor
  · intro h
    cases h with
    | look h => exact ⟨rfl, by simpa [Look.holds] using h⟩
  · rintro ⟨rfl, rfl⟩
    exact .look rfl

theorem matches_start {r : Regex} {b w a : List Char} :
    Matches (.seq (.look .startText) r) b w a ↔ b = [] ∧ Matches r b w a := by
  constructor
  · intro h
    cases h with
    | seq h₁ h₂ =>
      cases h₁ with
      | look h => exact ⟨by simpa [Look.holds] using h, by simpa using h₂⟩
  · rintro ⟨rfl, h⟩
    have h₁ : Matches (.look .startText) [] [] (w ++ a) := .look rfl
    exact .seq h₁ h

section Source

variable {ast : Ast} {as : List Ast} {f : Flags} {r r' : Regex}

theorem meaning_startTree (has : as ≠ []) : (Ast.concat .none (startTree :: as)).meaning .init =
    Ast.meaning.meaningSeq .init as >>= fun x => .ok (.seq (.look .startText) x.1, x.2) := by
  rw [Ast.meaning, Ast.meaningSeq_cons has]
  rfl

/-- A source means what its items mean, from the start of the text. -/
theorem meaning_source (h : ast.bare = .concat .none (startTree :: as)) (has : as ≠ [])
    (hr : Ast.meaning.meaningSeq .init as = .ok (r', f)) :
    ∃ r, ast.meaning .init = .ok (r, f) := by
  have e := meaning_startTree has
  rw [hr, ← h] at e
  obtain ⟨r, hm, -⟩ := Ast.meaning_bare_ok.1 e
  exact ⟨r, hm⟩

theorem meaning_of_source (h : ast.bare = .concat .none (startTree :: as)) (has : as ≠ [])
    (hm : ast.meaning .init = .ok (r, f)) :
    ∃ r', Ast.meaning.meaningSeq .init as = .ok (r', f) ∧ r.bare = .seq (.look .startText) r' := by
  have e := meaning_startTree has
  rw [← h, Ast.meaning_bare_ok.2 ⟨r, hm, rfl⟩] at e
  obtain ⟨⟨r', f'⟩, hr, hx⟩ := bind_ok.1 e.symm
  simp only [Except.ok.injEq, Prod.mk.injEq] at hx
  obtain ⟨hx, rfl⟩ := hx
  exact ⟨r', hr, hx.symm⟩

end Source

end Layout

/-! ## Masks -/

namespace Mask

variable {text : List Char} {template : Template} {limit : Nat} {ast : Ast} {as : List Ast}

/-- A fault that is no fault of the mask: its regex is too deep or too large. -/
def Fault.IsLimit (text : List Char) (limit : Nat) (f : Fault) : Prop :=
  (∃ span source, f = .malformed text (.regex ⟨.nestLimitExceeded nestLimit, span⟩ source)) ∨
    f = .malformed text (.tooLarge limit)

theorem exists_ok_of_any {ε α : Type} {x : Except ε α} {p : α → Bool}
    (h : x.toOption.any p = true) : ∃ a, x = .ok a ∧ p a = true := by
  cases x with
  | error => cases h
  | ok a => exact ⟨a, rfl, h⟩

theorem sourceOf_eq (hb : Text.trim text ≠ []) :
    sourceOf text = .ok (Layout.ofText (Text.trim text)).source := by
  rw [sourceOf, if_neg (by simpa using hb)]

/-- A text is refused as malformed, and for nothing else. -/
theorem malformed_of_error {e : Fault}
    (h : ofText text template limit = .error e) : ∃ reason, e = .malformed text reason := by
  unfold ofText sourceOf at h
  split at h
  · next hs =>
    split at hs
    · cases hs; cases h; exact ⟨_, rfl⟩
    · cases hs
  · split at h
    · cases h; exact ⟨_, rfl⟩
    · cases h

/-- A mask keeps the template that it is given. -/
theorem template_of_ofText {m : Mask} (h : ofText text template limit = .ok m) :
    m.template = template := by
  unfold ofText at h
  split at h
  · cases h
  · split at h <;> cases h
    rfl

/-- A mask that is accepted has a source that is read and means something. -/
theorem ofText_ok {m : Mask} (h : ofText text template limit = .ok m) : Text.trim text ≠ [] ∧
    ∃ p f, Parsed.ofText (Layout.ofText (Text.trim text)).source = .ok p ∧
      p.ast.meaning .init = .ok (m.compiled.regex, f) := by
  unfold ofText sourceOf at h
  split at h
  · cases h
  · next s hs =>
    split at hs
    · cases hs
    · next hb =>
      cases hs
      unfold compile at h
      split at h
      · cases h
      · next c hc =>
        cases h
        refine ⟨by simpa using hb, ?_⟩
        split at hc
        · cases hc
        · next p hp =>
          split at hc
          · cases hc
          · next r f hm =>
            split at hc
            · cases hc; exact ⟨p, f, hp, hm⟩
            · cases hc

/-- A mask whose source is read, is not too deep and means something is refused for its size
only. -/
theorem ofText_error_of_shallow {f : Flags} {r : Regex} (hb : Text.trim text ≠ [])
    (ha : Ast.ofText (Layout.ofText (Text.trim text)).source = .ok ast)
    (hd : ast.tooDeep nestLimit 0 = none) (hm : ast.meaning .init = .ok (r, f)) {e : Fault}
    (h : ofText text template limit = .error e) : e = .malformed text (.tooLarge limit) := by
  simp only [ofText, sourceOf_eq hb, compile, Parsed.ofText_eq, ha, hd, hm, bind, Except.bind] at h
  by_cases hf : r.fits limit = true
  · rw [if_pos hf] at h
    cases h
  · rw [if_neg hf] at h
    cases h
    rfl

/-- A mask whose source is read and means something is refused for a limit only. -/
theorem ofText_error {f : Flags} {r : Regex} (hb : Text.trim text ≠ [])
    (ha : Ast.ofText (Layout.ofText (Text.trim text)).source = .ok ast)
    (hm : ast.meaning .init = .ok (r, f)) {e : Fault} (h : ofText text template limit = .error e) :
    e.IsLimit text limit := by
  cases hdeep : ast.tooDeep nestLimit 0 with
  | some span =>
    simp only [ofText, sourceOf_eq hb, compile, Parsed.ofText_eq, ha, hdeep, bind, Except.bind] at h
    cases h
    exact .inl ⟨span, _, rfl⟩
  | none => exact .inr (ofText_error_of_shallow hb ha hdeep hm h)

/-- A mask accepts a text if its items describe the whole of it. -/
theorem accepts_iff {m : Mask} (h : ofText text template limit = .ok m)
    (ha : Ast.ofText (Layout.ofText (Text.trim text)).source = .ok ast)
    (hbare : ast.bare = .concat .none (startTree :: as)) (has : as ≠ []) :
    ∃ r f, Ast.meaning.meaningSeq .init as = .ok (r, f) ∧
      ∀ url, m.accepts url = true ↔ ∃ w a, w ++ a = url ∧ Matches r [] w a := by
  obtain ⟨-, p, f, hp, hm⟩ := ofText_ok h
  obtain ⟨ha', -, -⟩ := Parsed.ofText_ok.1 hp
  cases ha.symm.trans ha'
  obtain ⟨r, hr, hbr⟩ := Layout.meaning_of_source hbare has hm
  refine ⟨r, f, hr, fun url => ?_⟩
  rw [accepts, finds_iff (Ast.meaning_ordered _ _ (Parsed.ordered hp) hm), Finds]
  simp only [← matches_bare m.compiled.regex, hbr, Layout.matches_start]
  constructor
  · rintro ⟨b, w, a, rfl, rfl, hw⟩
    exact ⟨w, a, rfl, hw⟩
  · rintro ⟨w, a, rfl, hw⟩
    exact ⟨[], w, a, rfl, rfl, hw⟩

end Mask

end UrlMask
