import UrlMask.Proofs.Mask.Division
import UrlMask.Proofs.Text.Span

/-!
# Different masks have different sources

The text of a mask can be told from its source. A literal character ends where its digits do, the
lead ends at the bracket of a group or at the anchor, and as long as round brackets come in pairs in
a section, its group is closed by the first bracket that it did not open.

* `Layout.Spells.append_inj`: what a character is written as is no start of another.
* `Layout.escape_append_inj`: literal text ends where no character is written.
* `Layout.eq_of_body_eq`: layouts with one source are the same.
* `Mask.trim_eq_of_sourceOf_eq`: masks with one source are the same but for blanks at their ends.
-/
namespace UrlMask

namespace Layout

/-! ## Literal text -/

/-- No character of literal text is written at the start. -/
def Stops (r : List Char) : Prop := ∀ x ∈ r.head?, x.isAlphanum = false ∧ x ≠ '\\'

section Spells

variable {c c' : Char} {w w' r r' : List Char}

/-- A character is written with itself or with a backslash in front. -/
theorem Spells.head (h : Spells c w) : ∃ x v, w = x :: v ∧ (x.isAlphanum = true ∨ x = '\\') := by
  cases h with
  | kept h => exact ⟨c, [], rfl, .inl h⟩
  | byte | braced => exact ⟨'\\', _, rfl, .inr rfl⟩

theorem Spells.not_stops (h : Spells c w) : ¬ Stops (w ++ r) := by
  intro hs
  obtain ⟨x, v, rfl, hx⟩ := h.head
  obtain ⟨ha, hb⟩ := hs x rfl
  rcases hx with hx | hx
  · rw [ha] at hx
    cases hx
  · exact hb hx

/-- The number of a character tells the character. -/
theorem eq_of_toNat_eq (h : c.toNat = c'.toNat) : c = c' :=
  Char.ext (UInt32.toNat_inj.1 h)

/-- Digits end at the brace behind them. -/
theorem digits_append_inj {ds ds' : List Char} (hds : ∀ d ∈ ds, d ∈ lowerHex)
    (hds' : ∀ d ∈ ds', d ∈ lowerHex) (h : ds ++ '\x7d' :: r = ds' ++ '\x7d' :: r') :
    ds = ds' ∧ r = r' := by
  have hspan {ds r : List Char} (hds : ∀ d ∈ ds, d ∈ lowerHex) :
      (ds ++ '\x7d' :: r).takeWhile lowerHex.contains = ds := by
    refine Span.takeWhile_append_stop (fun d hd => List.contains_iff_mem.2 (hds d hd)) ?_
    intro x hx
    cases hx
    decide
  have heq : ds = ds' := by rw [← hspan (r := r) hds, h, hspan hds']
  subst heq
  exact ⟨rfl, (List.cons.inj (List.append_cancel_left h)).2⟩

/-- What a character is written as tells the character, and where it ends. -/
theorem Spells.append_inj (h : Spells c w) (h' : Spells c' w') (e : w ++ r = w' ++ r') :
    c = c' ∧ r = r' := by
  have hbackslash : ¬ ('\\' : Char).isAlphanum = true := by decide
  have hbrace : '\x7b' ∉ lowerHex := by decide
  cases h with
  | kept h =>
    cases h' with
    | kept _ => exact List.cons.inj e
    | byte | braced => exact absurd ((List.cons.inj e).1 ▸ h) hbackslash
  | byte _ _ hx hy hv =>
    cases h' with
    | kept h' => exact absurd ((List.cons.inj e).1 ▸ h') hbackslash
    | byte _ _ _ _ hv' =>
      simp only [List.cons_append, List.nil_append, List.cons.injEq, true_and] at e
      obtain ⟨rfl, rfl, rfl⟩ := e
      exact ⟨eq_of_toNat_eq (hv.symm.trans hv'), rfl⟩
    | braced =>
      simp only [List.cons_append, List.nil_append, List.cons.injEq, true_and] at e
      exact absurd (e.1 ▸ hx) hbrace
  | braced _ _ hds _ hv =>
    cases h' with
    | kept h' => exact absurd ((List.cons.inj e).1 ▸ h') hbackslash
    | byte _ _ hx' _ _ =>
      simp only [List.cons_append, List.nil_append, List.cons.injEq, true_and] at e
      exact absurd (e.1 ▸ hx') hbrace
    | braced _ _ hds' _ hv' =>
      simp only [List.cons_append, List.nil_append, List.append_assoc, List.cons.injEq,
        true_and] at e
      obtain ⟨rfl, hr⟩ := digits_append_inj hds hds' e
      exact ⟨eq_of_toNat_eq (hv.symm.trans hv'), hr⟩

end Spells

/-- Literal text is told by how it is written, if something else follows. -/
theorem escape_append_inj {l l' r r' : List Char} (hr : Stops r) (hr' : Stops r')
    (e : escape l ++ r = escape l' ++ r') : l = l' ∧ r = r' := by
  have hspells (c : Char) : Spells c (escapeChar c) := spells_iff.2 rfl
  have hcons (c : Char) (l r : List Char) :
      escape (c :: l) ++ r = escapeChar c ++ (escape l ++ r) := by
    rw [escape, List.flatMap_cons, List.append_assoc, ← escape]
  induction l generalizing l' with
  | nil =>
    cases l' with
    | nil => exact ⟨rfl, e⟩
    | cons c' l' =>
      rw [hcons] at e
      have he : r = escapeChar c' ++ (escape l' ++ r') := e
      exact absurd (he ▸ hr) (hspells c').not_stops
  | cons c l ih =>
    rw [hcons] at e
    cases l' with
    | nil =>
      have he : escapeChar c ++ (escape l ++ r) = r' := e
      exact absurd (he ▸ hr') (hspells c).not_stops
    | cons c' l' =>
      rw [hcons] at e
      obtain ⟨rfl, he⟩ := (hspells c).append_inj (hspells c') e
      obtain ⟨rfl, hrest⟩ := ih he
      exact ⟨rfl, hrest⟩

/-! ## Layouts -/

/-- Round brackets come in pairs in every section, one that is never closed too. -/
structure RoundPaired (lay : Layout) : Prop where
  sections : ∀ u ∈ lay.sections, Text.Paired '(' ')' u
  tail : Text.Paired '(' ')' lay.tail

instance (lay : Layout) : Decidable lay.RoundPaired :=
  decidable_of_iff ((∀ u ∈ lay.sections, Text.Paired '(' ')' u) ∧ Text.Paired '(' ')' lay.tail)
    ⟨fun h => ⟨h.1, h.2⟩, fun h => ⟨h.sections, h.tail⟩⟩

/-- What follows the literal text before the first section, with the anchor at the end. -/
def afterLead : Layout → List Char
  | literal _ => ['$']
  | unclosed _ t => groupOpen ++ (t ++ ['$'])
  | section' _ u rest => groupOpen ++ (u ++ ')' :: (rest.body ++ ['$']))

theorem body_eq_afterLead (lay : Layout) :
    lay.body ++ ['$'] = escape lay.lead ++ lay.afterLead := by
  cases lay <;> simp [body, lead, afterLead]

theorem stops_afterLead (lay : Layout) : Stops lay.afterLead := by
  cases lay with
  | literal =>
    intro x hx
    cases hx
    decide
  | unclosed | section' =>
    intro x hx
    cases hx
    decide

/-- A section that is closed ends at a bracket, and one that is never closed has no such bracket. -/
theorem afterLead_unclosed_ne {l l' t u : List Char} {rest : Layout}
    (ht : Text.NeverCloses '(' ')' t) (hu : Text.Paired '(' ')' u) :
    (unclosed l t).afterLead ≠ (section' l' u rest).afterLead := by
  intro h
  have heq : t ++ ['$'] = (u ++ ')' :: rest.body) ++ ['$'] := by
    simpa using List.append_cancel_left h
  have hprefix : u ++ [')'] <+: t := by
    rw [List.append_cancel_right heq]
    exact ⟨rest.body, by simp⟩
  exact hu.not_prefix (by decide) ht hprefix

/-- Layouts with one source are the same. -/
theorem eq_of_body_eq {lay lay' : Layout} (h : lay.RoundPaired) (h' : lay'.RoundPaired)
    (e : lay.body ++ ['$'] = lay'.body ++ ['$']) : lay = lay' := by
  induction lay generalizing lay' with
  | literal l =>
    rw [body_eq_afterLead, body_eq_afterLead] at e
    obtain ⟨hlead, hafter⟩ := escape_append_inj (stops_afterLead _) (stops_afterLead _) e
    cases lay' with
    | literal l' => exact congrArg _ hlead
    | unclosed | section' => cases hafter
  | unclosed l t =>
    rw [body_eq_afterLead, body_eq_afterLead] at e
    obtain ⟨rfl, hafter⟩ := escape_append_inj (stops_afterLead _) (stops_afterLead _) e
    cases lay' with
    | literal => cases hafter
    | unclosed l' t' =>
      have ht := List.append_cancel_left hafter
      exact congrArg _ (List.append_cancel_right ht)
    | section' l' u' rest' =>
      have hu' := h'.sections u' (List.mem_cons_self ..)
      exact absurd hafter (afterLead_unclosed_ne h.tail.neverCloses hu')
  | section' l u rest ih =>
    rw [body_eq_afterLead, body_eq_afterLead] at e
    obtain ⟨rfl, hafter⟩ := escape_append_inj (stops_afterLead _) (stops_afterLead _) e
    have hu := h.sections u (List.mem_cons_self ..)
    cases lay' with
    | literal => cases hafter
    | unclosed l' t' =>
      exact absurd hafter.symm (afterLead_unclosed_ne h'.tail.neverCloses hu)
    | section' l' u' rest' =>
      have hu' := h'.sections u' (List.mem_cons_self ..)
      obtain ⟨rfl, hrest⟩ := hu.append_inj (by decide) hu' (List.append_cancel_left hafter)
      have hpaired : rest.RoundPaired :=
        ⟨fun v hv => h.sections v (List.mem_cons_of_mem _ hv), h.tail⟩
      have hpaired' : rest'.RoundPaired :=
        ⟨fun v hv => h'.sections v (List.mem_cons_of_mem _ hv), h'.tail⟩
      rw [ih hpaired hpaired' hrest]
      rfl

end Layout

namespace Mask

/-- Masks with one source are the same but for blanks at their ends, if round brackets come in pairs
in their sections. -/
theorem trim_eq_of_sourceOf_eq {p q : List Char} (hp : (Layout.ofText (Text.trim p)).RoundPaired)
    (hq : (Layout.ofText (Text.trim q)).RoundPaired) (h : sourceOf p = sourceOf q) :
    Text.trim p = Text.trim q := by
  by_cases hbp : Text.trim p = []
  · by_cases hbq : Text.trim q = []
    · rw [hbp, hbq]
    · rw [sourceOf_eq hbq, sourceOf, if_pos (by simpa using hbp)] at h
      cases h
  by_cases hbq : Text.trim q = []
  · rw [sourceOf_eq hbp, sourceOf, if_pos (by simpa using hbq)] at h
    cases h
  · rw [sourceOf_eq hbp, sourceOf_eq hbq, Layout.source, Layout.source] at h
    have hbody := (List.cons.inj (Except.ok.inj h)).2
    have hlayout := Layout.eq_of_body_eq hp hq hbody
    rw [← Layout.text_ofText (Text.trim p), hlayout, Layout.text_ofText]

/-- Literal text, a section with a group in it, and one that is never closed. -/
theorem trim_eq_of_sourceOf_eq_of_blank :
    let p := "a.é[(b|c)\\(\\)]d[(e)*".toList
    sourceOf p = sourceOf (p ++ [' ']) ∧ Text.trim p = Text.trim (p ++ [' ']) := by
  have h : sourceOf "a.é[(b|c)\\(\\)]d[(e)*".toList =
      sourceOf ("a.é[(b|c)\\(\\)]d[(e)*".toList ++ [' ']) := rfl
  exact ⟨h, trim_eq_of_sourceOf_eq (by decide) (by decide) h⟩

/-- A round bracket that closes the group of its section can begin another. -/
example : sourceOf "[a)(?:b]".toList = .ok "^(?:a)(?:b)$".toList ∧
    sourceOf "[a][b]".toList = .ok "^(?:a)(?:b)$".toList := ⟨rfl, rfl⟩

end Mask

end UrlMask
