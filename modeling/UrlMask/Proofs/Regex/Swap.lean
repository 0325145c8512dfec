import UrlMask.Proofs.Regex.Scan

/-!
# Two texts with the same beginning

A reader that stops before the end `t` of a text has not seen `t`, except for its first character.
It reads the same in a text where `t'` stands in the place of `t`, wherever the texts begin. Here
this is shown of cursors and of scans.

* `Ends`: two ends of a text before which readers stop alike.
* `Swap`: two cursors after which the same follows, up to the ends.
* `Swap.advance`, `Swap.skip`, `scan_swap`: what the cursors come to stays so related, as long as
  the first of them has not passed the end `t`.
-/
namespace UrlMask.Regex

/-- Ends of a text before which readers stop alike: nothing, or a closing round bracket and
whatever follows it. In a verbose pattern a comment could be open before an end that is empty,
and would go on in the other. -/
structure Ends (v : Bool) (t t' : List Char) : Prop where
  left : ∀ x ∈ t.head?, x = ')'
  right : ∀ x ∈ t'.head?, x = ')'
  comment : v = true → t = [] → t' = []

/-- Where no comment can be open, the ends need not be told apart. -/
theorem Ends.plain {v : Bool} {t t' : List Char} (e : Ends v t t') : Ends false t t' :=
  ⟨e.left, e.right, nofun⟩

theorem Ends.symm {t t' : List Char} (e : Ends false t t') : Ends false t' t :=
  ⟨e.right, e.left, nofun⟩

/-- The same follows both cursors, with `t'` in the place of `t`. -/
def Swap (t t' : List Char) (c c' : Cursor) : Prop := ∃ w, c.rest = w ++ t ∧ c'.rest = w ++ t'

theorem ne_of_suffix_cons {α : Type} {x : α} {r t : List α} (h : t <:+ r) : t ≠ x :: r := by
  rintro rfl
  have := h.length_le
  rw [List.length_cons] at this
  omega

namespace Swap

variable {t t' : List Char} {c c' : Cursor} {v : Bool} {x : Char}

theorem symm (h : Swap t t' c c') : Swap t' t c' c := by
  obtain ⟨w, h, h'⟩ := h
  exact ⟨w, h', h⟩

theorem peek (h : Swap t t' c c') (hx : c.peek = some x) (ht : t <:+ c.advance.rest) :
    c'.peek = some x := by
  obtain ⟨_ | ⟨y, w⟩, h, h'⟩ := h
  · rw [Cursor.peek_eq_some, h] at hx
    exact absurd hx (ne_of_suffix_cons ht)
  · rw [Cursor.peek, h'] at *
    rw [h] at hx
    exact hx

theorem advance (h : Swap t t' c c') (hx : c.peek = some x) (ht : t <:+ c.advance.rest) :
    Swap t t' c.advance c'.advance := by
  have hx' := h.peek hx ht
  rw [Cursor.peek_eq_some] at hx hx'
  obtain ⟨_ | ⟨y, w⟩, h, h'⟩ := h
  · exact absurd (h ▸ hx) (ne_of_suffix_cons ht)
  · rw [hx, List.cons_append, List.cons.injEq] at h
    rw [hx', List.cons_append, List.cons.injEq] at h'
    exact ⟨w, h.2, h'.2⟩

/-- The next characters are the same, or both cursors are at the ends. -/
theorem peek_cases (h : Swap t t' c c') :
    c'.peek = c.peek ∨ (c.rest = t ∧ c'.rest = t') := by
  obtain ⟨_ | ⟨y, w⟩, h, h'⟩ := h
  · exact .inr ⟨h, h'⟩
  · exact .inl (by rw [Cursor.peek, Cursor.peek, h, h']; rfl)

/-- Only a closing round bracket can be the next character for one cursor and not for the
other. -/
theorem peek_iff (e : Ends v t t') (h : Swap t t' c c') (hx : x ≠ ')') :
    c'.peek = some x ↔ c.peek = some x := by
  rcases h.peek_cases with h | ⟨h, h'⟩
  · rw [h]
  · rw [Cursor.peek, Cursor.peek, h, h']
    exact ⟨fun h => absurd (e.right x h) hx, fun h => absurd (e.left x h) hx⟩

theorem skipFrom (e : Ends true t t') {comment : Bool} {p p' : Nat} {w : List Char}
    (ht : t <:+ (Cursor.skipFrom comment p (w ++ t)).rest) :
    Swap t t' (.skipFrom comment p (w ++ t)) (.skipFrom comment p' (w ++ t')) := by
  induction w generalizing comment p p' with
  | nil =>
    -- At the ends: a comment would pass over `t`, and without one both stay where they are.
    have stay (q : Nat) (u : List Char) (hu : ∀ x ∈ u.head?, x = ')') :
        Cursor.skipFrom false q u = ⟨q, u⟩ := by
      cases u with
      | nil => rfl
      | cons y u =>
        cases hu y rfl
        rfl
    cases comment with
    | false => exact ⟨[], by simp [stay _ _ e.left], by simp [stay _ _ e.right]⟩
    | true =>
      cases t with
      | nil => exact ⟨[], rfl, by simp [e.comment rfl rfl, Cursor.skipFrom]⟩
      | cons y t =>
        rw [List.nil_append, Cursor.skipFrom, if_pos rfl] at ht
        exact absurd rfl (ne_of_suffix_cons (ht.trans (Cursor.skipFrom_suffix _ _ _)))
  | cons y w ih =>
    rw [List.cons_append] at ht ⊢
    rw [List.cons_append]
    unfold Cursor.skipFrom at ht ⊢
    split
    · next hc => rw [if_pos hc] at ht; exact ih ht
    · next hc =>
      rw [if_neg hc] at ht
      split
      · next hb => rw [if_pos hb] at ht; exact ih ht
      · next hb =>
        rw [if_neg hb] at ht
        split
        · next hy => rw [if_pos hy] at ht; exact ih ht
        · exact ⟨y :: w, rfl, rfl⟩

theorem skip (e : Ends v t t') (h : Swap t t' c c') (ht : t <:+ (c.skip v).rest) :
    Swap t t' (c.skip v) (c'.skip v) := by
  cases v with
  | false => exact h
  | true =>
    obtain ⟨p, r⟩ := c
    obtain ⟨p', r'⟩ := c'
    obtain ⟨w, rfl, rfl⟩ := h
    exact skipFrom e ht

theorem advanceSkip (e : Ends v t t') (h : Swap t t' c c') (hx : c.peek = some x)
    (ht : t <:+ (c.advanceSkip v).rest) :
    c'.peek = some x ∧ Swap t t' (c.advanceSkip v) (c'.advanceSkip v) := by
  have ha := ht.trans (Cursor.advanceSkip_suffix_advance v c)
  exact ⟨h.peek hx ha, (h.advance hx ha).skip e ht⟩

/-- What ends before the end `t` is the same before the other. -/
theorem after (h : Swap t t' c c') {u r : List Char} (hc : c.rest = u ++ r) (ht : t <:+ r) :
    ∃ w, r = w ++ t ∧ c'.rest = u ++ (w ++ t') := by
  obtain ⟨w, h, h'⟩ := h
  obtain ⟨w₀, rfl⟩ := ht
  rw [h, ← List.append_assoc, List.append_left_inj] at hc
  exact ⟨w₀, rfl, by rw [h', hc, List.append_assoc]⟩

/-- What has no closing round bracket in it does not reach beyond the end. -/
theorem split (e : Ends v t t') (h : Swap t t' c c') {u r : List Char} (hu : ')' ∉ u)
    (hc : c.rest = u ++ r) : ∃ w, r = w ++ t ∧ c'.rest = u ++ (w ++ t') := by
  obtain ⟨w, h, h'⟩ := h
  rw [h, List.append_eq_append_iff] at hc
  obtain ⟨_ | ⟨y, a⟩, rfl, ht⟩ | ⟨a, rfl, rfl⟩ := hc
  · exact ⟨[], by simpa using ht.symm, by simpa using h'⟩
  · have := e.left y (by simp [ht])
    simp [this] at hu
  · exact ⟨a, rfl, by simpa using h'⟩

/-- A reader that finds the same before other ends, if it finds anything, finds nothing where it
found nothing. -/
theorem both_or_none {α : Type} {f : Cursor → Option α}
    {R : List Char → List Char → α → α → Prop}
    (forth : ∀ {t t' c c' a}, Ends false t t' → Swap t t' c c' → f c = some a →
      ∃ a', f c' = some a' ∧ R t t' a a') (e : Ends v t t') (h : Swap t t' c c') :
    (f c = none ∧ f c' = none) ∨ ∃ a a', f c = some a ∧ f c' = some a' ∧ R t t' a a' := by
  cases hc : f c with
  | some a =>
    obtain ⟨a', ha', hr⟩ := forth e.plain h hc
    exact .inr ⟨a, a', rfl, ha', hr⟩
  | none =>
    cases hc' : f c' with
    | none => exact .inl ⟨rfl, rfl⟩
    | some a' =>
      obtain ⟨a, ha, -⟩ := forth e.plain.symm h.symm hc'
      rw [hc] at ha
      cases ha

theorem eat? (e : Ends v t t') (h : Swap t t' c c') (word : String) (hw : ')' ∉ word.toList) :
    (c.eat? word = none ∧ c'.eat? word = none) ∨
      ∃ d d', c.eat? word = some d ∧ c'.eat? word = some d' ∧ Swap t t' d d' := by
  refine both_or_none (f := (·.eat? word)) (R := Swap) (fun {t t' c c' d} e h hd => ?_) e h
  obtain ⟨hr, -⟩ := Cursor.eat?_eq_some.1 hd
  obtain ⟨w, hw, hr'⟩ := h.split e hw hr
  exact ⟨⟨_, w ++ t'⟩, Cursor.eat?_eq_some.2 ⟨hr', rfl⟩, w, hw, rfl⟩

end Swap

/-! ## Scans -/

theorem scan_of_stop {p : Char → Bool} {c : Cursor} (h : ∀ x, c.peek = some x → p x = false)
    (v : Bool) (fuel : Nat) : scan p v fuel c = ([], c) := by
  cases fuel with
  | zero => rfl
  | succ fuel =>
    unfold scan
    split
    · next ch hc => rw [h ch hc]; rfl
    · rfl

/-- What stops a scan before the ends stops the other too. -/
theorem stop_swap {t t' : List Char} {v : Bool} (e : Ends v t t') {p : Char → Bool}
    {c c' : Cursor} (h : Swap t t' c c') (hc : ∀ x, c.peek = some x → p x = false)
    (hp : p ')' = false ∨ c.rest ≠ t) : ∀ x, c'.peek = some x → p x = false := by
  intro x hx
  rcases h.peek_cases with hcc | ⟨hct, hct'⟩
  · exact hc x (hcc ▸ hx)
  · rw [Cursor.peek, hct'] at hx
    rw [e.right x hx]
    exact hp.resolve_right fun hne => hne hct

/-- Scans that stop before the ends, or that a closing round bracket stops, read the same. -/
theorem scan_swap {t t' : List Char} {v : Bool} (e : Ends v t t') {p : Char → Bool}
    {fuel n : Nat} {c c' d : Cursor} {s : List Char} (hf : c.rest.length ≤ fuel)
    (hf' : c'.rest.length ≤ n) (h : Swap t t' c c') (hs : scan p v fuel c = (s, d))
    (ht : t <:+ d.rest) (hp : p ')' = false ∨ d.rest ≠ t) :
    ∃ d', scan p v n c' = (s, d') ∧ Swap t t' d d' := by
  induction fuel generalizing c c' n s with
  | zero =>
    have hc : c.rest = [] := List.eq_nil_of_length_eq_zero (Nat.le_zero.1 hf)
    cases hs
    refine ⟨c', scan_of_stop (stop_swap e h (fun x hx => ?_) hp) v n, h⟩
    rw [Cursor.peek, hc] at hx
    cases hx
  | succ fuel ih =>
    by_cases hc : ∀ x, c.peek = some x → p x = false
    · rw [scan_of_stop hc] at hs
      cases hs
      exact ⟨c', scan_of_stop (stop_swap e h hc hp) v n, h⟩
    · obtain ⟨ch, hc, hpc⟩ : ∃ ch, c.peek = some ch ∧ p ch = true := by simpa using hc
      rw [scan, hc] at hs
      simp only [hpc, if_true, Prod.mk.injEq] at hs
      obtain ⟨rfl, rfl⟩ := hs
      obtain ⟨hc', hd⟩ := h.advanceSkip e hc (ht.trans (scan_suffix p v fuel _))
      have hlt := Cursor.advanceSkip_lt v hc
      have hlt' := Cursor.advanceSkip_lt v hc'
      obtain _ | n := n
      · omega
      · obtain ⟨d', hs', hd'⟩ := ih (n := n) (by omega) (by omega) hd rfl
        refine ⟨d', ?_, hd'⟩
        rw [scan, hc']
        simp only [hpc, if_true, hs']

end UrlMask.Regex
