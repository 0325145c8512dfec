import UrlMask.Proofs.Regex.Escape

/-!
# The parts of bracketed classes

A class is read part by part: items and ranges of them, named classes, brackets that open. The
reader looks ahead after each, for `-`, for doubled operators and for named classes. So a part is
the same before another end only while more of the class follows.

* `Before`: an end lies beyond the next character.
* `Bracketed.posix?_swap`, `Bracketed.openBracket_swap`, `Bracketed.item_swap`: the same part is
  read before other ends.
-/
namespace UrlMask.Regex

/-- The end `t` lies beyond the next character. -/
def Before (t : List Char) (c : Cursor) : Prop := ∃ x w, c.rest = x :: (w ++ t)

namespace Before

variable {t t' : List Char} {c c' d : Cursor}

theorem suffix (h : Before t c) : t <:+ c.rest := by
  obtain ⟨x, w, h⟩ := h
  exact h ▸ List.suffix_append (x :: w) t

theorem peek (h : Before t c) : ∃ x, c.peek = some x ∧ t <:+ c.advance.rest := by
  obtain ⟨x, w, h⟩ := h
  have hx : c.peek = some x := by rw [Cursor.peek, h]; rfl
  have hr := Cursor.peek_eq_some.1 hx
  rw [h, List.cons.injEq] at hr
  exact ⟨x, hx, hr.2 ▸ List.suffix_append w t⟩

theorem of_advance {x : Char} (hx : c.peek = some x) (h : t <:+ c.advance.rest) : Before t c := by
  obtain ⟨w, hw⟩ := h
  exact ⟨x, w, hw ▸ Cursor.peek_eq_some.1 hx⟩

/-- What comes before a place before the end is before the end. -/
theorem of_suffix (h : Before t d) (hs : d.rest <:+ c.rest) : Before t c := by
  obtain ⟨x, w, h⟩ := h
  obtain ⟨_ | ⟨y, w'⟩, hw⟩ := hs
  · exact ⟨x, w, by rw [← hw, List.nil_append, h]⟩
  · exact ⟨y, w' ++ x :: w, by rw [← hw, h]; simp⟩

theorem rest_ne_nil (h : Before t c) : c.rest ≠ [] := by
  obtain ⟨x, w, h⟩ := h
  rw [h]
  exact List.cons_ne_nil _ _

theorem swap (h : Before t c) (hs : Swap t t' c c') : Before t' c' := by
  obtain ⟨x, hx, ht⟩ := h.peek
  exact of_advance (hs.peek hx ht) (by
    obtain ⟨w, -, h'⟩ := hs.advance hx ht
    exact h' ▸ List.suffix_append w t')

theorem peek_eq (h : Before t c) (hs : Swap t t' c c') : c'.peek = c.peek := by
  obtain ⟨x, hx, ht⟩ := h.peek
  rw [hx, hs.peek hx ht]

theorem atEnd (h : Before t c) : c.atEnd = false := by
  have := h.rest_ne_nil
  simpa [Cursor.atEnd]

end Before

namespace Bracketed

/-! ## Items and frames without places -/

def Frame.bare : Frame → Frame
  | bracket _ negated outer => .bracket .none negated ⟨.none, outer.items.map ClassTree.bare⟩
  | op kind lhs => .op kind lhs.bare

/-- The same items, read at other places. -/
def Items.Same (u u' : Items) : Prop := u'.items.map ClassTree.bare = u.items.map ClassTree.bare

theorem Items.Same.push {u u' : Items} {t t' : ClassTree} (h : u.Same u') (ht : t'.bare = t.bare) :
    (u.push t).Same (u'.push t') := by
  simp only [Items.Same, Items.push, List.map_cons, ht, List.cons.injEq, true_and]
  exact h

theorem Items.Same.isEmpty {u u' : Items} (h : u.Same u') : u'.items.isEmpty = u.items.isEmpty := by
  have := congrArg List.isEmpty h
  simpa using this

theorem Items.Same.toTree {u u' : Items} (h : u.Same u') : u'.toTree.bare = u.toTree.bare := by
  obtain ⟨s, l⟩ := u
  obtain ⟨s', l'⟩ := u'
  simp only [Items.Same] at h
  rcases UrlMask.Span.cases_of_map_eq h with
    ⟨rfl, rfl⟩ | ⟨a, a', rfl, rfl, ha⟩ | ⟨a, b, r, a', b', r', rfl, rfl⟩
  · simp [Items.toTree, ClassTree.bare]
  · simpa [Items.toTree] using ha
  · simp only [Items.toTree, ClassTree.bare, List.map_reverse, h]

theorem closeOp_bare {t t' : ClassTree} {fs fs' : List Frame} (ht : t'.bare = t.bare)
    (hf : fs'.map Frame.bare = fs.map Frame.bare) :
    (closeOp t' fs').1.bare = (closeOp t fs).1.bare ∧
      (closeOp t' fs').2.map Frame.bare = (closeOp t fs).2.map Frame.bare := by
  match fs, fs', hf with
  | [], [], _ => exact ⟨ht, rfl⟩
  | .op k l :: fs, .op k' l' :: fs', h =>
    simp only [List.map_cons, Frame.bare, List.cons.injEq, Frame.op.injEq] at h
    obtain ⟨⟨rfl, hl⟩, h⟩ := h
    exact ⟨by simp [closeOp, ClassTree.bare, ht, hl], h⟩
  | .bracket .. :: fs, .bracket .. :: fs', h => exact ⟨ht, h⟩
  | .bracket .. :: _, .op .. :: _, h => simp [Frame.bare] at h
  | .op .. :: _, .bracket .. :: _, h => simp [Frame.bare] at h
  | [], _ :: _, h => cases h
  | _ :: _, [], h => cases h

theorem unclosed_eq {α : Type} (fs : List Frame) :
    ∃ span, (unclosed fs : Except Fault α) = Cursor.fail .classUnclosed span := by
  induction fs with
  | nil => exact ⟨_, rfl⟩
  | cons f fs ih =>
    cases f with
    | bracket => exact ⟨_, rfl⟩
    | op => exact ih

theorem frames_isEmpty {fs fs' : List Frame} (h : fs'.map Frame.bare = fs.map Frame.bare) :
    fs'.isEmpty = fs.isEmpty := by
  have := congrArg List.isEmpty h
  simpa using this

/-! ## Named classes -/

/-- The names of classes are made of letters. -/
theorem posixName_alpha {s : List Char} {k : PosixKind} (h : posixName (String.ofList s) = some k) :
    ∀ x ∈ s, x.isAlpha = true := by
  have hs := String.toList_ofList (l := s)
  rw [← List.all_eq_true]
  unfold posixName at h
  split at h
  all_goals first
    | rename_i hn; rw [hn] at hs; rw [← hs]; decide
    | cases h

/-- A named class as it is written. -/
def posixText (negated : Bool) (name : List Char) : List Char :=
  ['[', ':'] ++ (if negated then ['^'] else []) ++ name ++ [':', ']']

theorem posix?_some {c d : Cursor} {t : ClassTree} (h : posix? c = some (t, d)) :
    ∃ negated name kind, c.rest = posixText negated name ++ d.rest ∧
      posixName (String.ofList name) = some kind ∧ t.bare = .posix .none kind negated := by
  simp only [posix?, bind, Option.bind_eq_some_iff, Option.some.injEq, Prod.mk.injEq] at h
  obtain ⟨inner, h₁, after, h₂, kind, hk, rfl, rfl⟩ := h
  refine ⟨inner.peek == some '^', _, kind, ?_, hk, by simp only [ClassTree.bare]⟩
  rw [Cursor.eat?_eq_some] at h₁ h₂
  have hr := List.takeWhile_append_dropWhile (p := (· != ':'))
    (l := (if inner.peek == some '^' then inner.advance else inner).rest)
  have h₂' : (if inner.peek == some '^' then inner.advance else inner).rest.dropWhile
      (· != ':') = ":]".toList ++ after.rest := h₂.1
  rw [h₂'] at hr
  rw [h₁.1]
  by_cases hn : inner.peek = some '^'
  · simp only [hn, beq_self_eq_true, if_true] at hr ⊢
    rw [Cursor.peek_eq_some.1 hn, ← hr]
    simp [posixText, Cursor.takeWhile]
  · simp only [beq_eq_false_iff_ne.2 hn, Bool.false_eq_true, if_false] at hr ⊢
    refine (congrArg _ hr.symm).trans ?_
    simp [posixText, Cursor.takeWhile]

theorem posix?_of_rest {c : Cursor} {negated : Bool} {name r : List Char} {kind : PosixKind}
    (h : c.rest = posixText negated name ++ r)
    (hk : posixName (String.ofList name) = some kind) :
    ∃ t d, posix? c = some (t, d) ∧ t.bare = .posix .none kind negated ∧ d.rest = r := by
  have ha := posixName_alpha hk
  have hn (p : Nat) : (⟨p, name ++ ':' :: ']' :: r⟩ : Cursor).peek ≠ some '^' := by
    cases name with
    | nil => simp [Cursor.peek]
    | cons x name =>
      rintro h
      have := ha x (List.mem_cons_self ..)
      simp only [Cursor.peek, List.cons_append, List.head?_cons, Option.some.injEq] at h
      rw [h] at this
      revert this
      decide
  have hc : ∀ x ∈ name, (x != ':') = true := by
    intro x hx
    have := ha x hx
    rw [bne_iff_ne]
    rintro rfl
    revert this
    decide
  have tw (p : Nat) : (⟨p, name ++ ':' :: ']' :: r⟩ : Cursor).takeWhile (· != ':') =
      (name, ⟨p + name.length, ':' :: ']' :: r⟩) := by
    simp [Cursor.takeWhile, List.takeWhile_append_of_pos hc, List.dropWhile_append_of_pos hc]
  obtain ⟨p, cr⟩ := c
  subst h
  cases negated with
  | false =>
    refine ⟨.posix ⟨p, p + 2 + name.length + 2⟩ kind false, ⟨p + 2 + name.length + 2, r⟩, ?_, ?_,
      rfl⟩
    · have := hn (p + 2)
      simp [posix?, posixText, Cursor.eat?, Cursor.eat?.go, this, tw, hk, Cursor.spanFrom]
    · simp [ClassTree.bare]
  | true =>
    refine ⟨.posix ⟨p, p + 3 + name.length + 2⟩ kind true, ⟨p + 3 + name.length + 2, r⟩, ?_, ?_,
      rfl⟩
    · simp [posix?, posixText, Cursor.eat?, Cursor.eat?.go, tw, hk, Cursor.spanFrom, Cursor.peek,
        Cursor.advance]
    · simp [ClassTree.bare]

section Swap

variable {t t' : List Char} {v : Bool} {c c' d : Cursor}

/-- The text of a named class has no round bracket in it, so no end can cut it. -/
theorem posix?_swap (e : Ends v t t') (h : Swap t t' c c') :
    (posix? c = none ∧ posix? c' = none) ∨ ∃ a a' d d', posix? c = some (a, d) ∧
      posix? c' = some (a', d') ∧ a'.bare = a.bare ∧ Swap t t' d d' := by
  have both := h.both_or_none (f := posix?)
    (R := fun t t' x x' => x'.1.bare = x.1.bare ∧ Swap t t' x.2 x'.2) (fun e h hd => ?_) e
  · refine both.imp_right ?_
    rintro ⟨⟨a, d⟩, ⟨a', d'⟩, hd, hd', ha, hs⟩
    exact ⟨a, a', d, d', hd, hd', ha, hs⟩
  · obtain ⟨negated, name, kind, hr, hk, ha⟩ := posix?_some hd
    have hn : ')' ∉ posixText negated name := by
      have := posixName_alpha hk ')'
      cases negated <;> simpa [posixText] using this
    obtain ⟨w, hw, hr'⟩ := h.split e hn hr
    obtain ⟨a', d', hd', ha', hw'⟩ := posix?_of_rest hr' hk
    exact ⟨(a', d'), hd', ha'.trans ha.symm, w, hw, hw'⟩

/-! ## Opening brackets -/

theorem hyphens_suffix {start fuel : Nat} {u w : Items}
    (hr : hyphens v start fuel u c = .ok (w, d)) : d.rest <:+ c.rest := by
  induction fuel generalizing u c with
  | zero => cases hr; exact List.suffix_refl _
  | succ fuel ih =>
    unfold hyphens at hr
    split at hr
    · exact (ih (guard_ok.1 hr).2).trans (c.advanceSkip_suffix v)
    · cases hr; exact List.suffix_refl _

theorem hyphens_swap (e : Ends v t t') {start p fuel fuel' : Nat} {u u' w : Items}
    (hu : u.Same u') (h : Swap t t' c c') (hf : c.rest.length ≤ fuel)
    (hf' : c'.rest.length ≤ fuel') (hr : hyphens v start fuel u c = .ok (w, d))
    (hb : Before t d) :
    ∃ w' d', hyphens v p fuel' u' c' = .ok (w', d') ∧ w.Same w' ∧ Swap t t' d d' := by
  have hbc := hb.of_suffix (hyphens_suffix hr)
  induction fuel generalizing u u' c c' fuel' with
  | zero => exact absurd (List.eq_nil_of_length_eq_zero (Nat.le_zero.1 hf)) hbc.rest_ne_nil
  | succ fuel ih =>
    have hlt' := List.length_pos_iff.2 (hbc.swap h).rest_ne_nil
    obtain _ | fuel' := fuel'
    · omega
    · unfold hyphens at hr ⊢
      rw [hbc.peek_eq h]
      split at hr
      · next hc =>
        have hr := (guard_ok.1 hr).2
        have hbd := hb.of_suffix (hyphens_suffix hr)
        obtain ⟨hc', hd⟩ := h.advanceSkip e hc hbd.suffix
        have := Cursor.advanceSkip_lt v hc
        have := Cursor.advanceSkip_lt v hc'
        rw [if_pos hc]
        dsimp only
        rw [(hbd.swap hd).atEnd]
        exact ih (hu.push (by simp [ClassTree.bare, Literal.bare])) hd (by omega) (by omega) hr hbd
      · next hc =>
        cases hr
        rw [if_neg hc]
        exact ⟨u', c', rfl, hu, h⟩

/-- The place after an opening bracket and, if it comes next, a `^`. -/
def afterOpen (v : Bool) (c : Cursor) : Cursor :=
  if (c.advanceSkip v).peek == some '^' then (c.advanceSkip v).advanceSkip v else c.advanceSkip v

theorem afterOpen_suffix (v : Bool) (c : Cursor) :
    (afterOpen v c).rest <:+ (c.advanceSkip v).rest := by
  unfold afterOpen
  split
  · exact Cursor.advanceSkip_suffix v _
  · exact List.suffix_refl _

theorem afterOpen_swap (e : Ends v t t') (h : Swap t t' c c') {x : Char} (hx : c.peek = some x)
    (hb : Before t (afterOpen v c)) :
    (c'.advanceSkip v).peek = (c.advanceSkip v).peek ∧
      Swap t t' (afterOpen v c) (afterOpen v c') := by
  have hb₁ := hb.of_suffix (afterOpen_suffix v c)
  obtain ⟨-, h₁⟩ := h.advanceSkip e hx hb₁.suffix
  refine ⟨hb₁.peek_eq h₁, ?_⟩
  unfold afterOpen at hb ⊢
  rw [hb₁.peek_eq h₁]
  split
  · next hn =>
    rw [if_pos hn] at hb
    exact (h₁.advanceSkip e (beq_iff_eq.1 hn) hb.suffix).2
  · exact h₁

theorem openBracket_ok {frames fs : List Frame} {outer u : Items} :
    openBracket v frames outer c = .ok (fs, u, d) ↔
      (c.advanceSkip v).rest ≠ [] ∧ (afterOpen v c).rest ≠ [] ∧ ∃ w c₃,
      hyphens v c.pos (afterOpen v c).rest.length (.start (afterOpen v c).span) (afterOpen v c) =
        .ok (w, c₃) ∧
      fs = .bracket (d.spanFrom c.pos) ((c.advanceSkip v).peek == some '^') outer :: frames ∧
      ((w.items.isEmpty = true ∧ c₃.peek = some ']' ∧ d = c₃.advanceSkip v ∧ d.rest ≠ [] ∧
        u = w.push (.literal ⟨c₃.charSpan, ']', false⟩)) ∨
      (¬ (w.items.isEmpty = true ∧ c₃.peek = some ']') ∧ d = c₃ ∧ u = w)) := by
  unfold openBracket
  simp only [↓fail_bind, guard_ok, bind_ok, Cursor.atEnd_iff, Prod.exists]
  refine and_congr_right fun _ => and_congr_right fun _ => exists_congr fun w =>
    exists_congr fun c₃ => and_congr_right fun _ => ?_
  split
  · next hw =>
    simp only [guard_ok, Except.ok.injEq, Prod.mk.injEq, hw, not_true, false_and, or_false,
      and_self, true_and]
    constructor
    · rintro ⟨hd, rfl, rfl, rfl⟩; exact ⟨rfl, rfl, hd, rfl⟩
    · rintro ⟨rfl, rfl, hd, rfl⟩; exact ⟨hd, rfl, rfl, rfl⟩
  · next hw =>
    simp only [Except.ok.injEq, Prod.mk.injEq, hw, not_false_iff, true_and]
    constructor
    · rintro ⟨rfl, rfl, rfl⟩; exact ⟨rfl, .inr ⟨rfl, rfl⟩⟩
    · rintro ⟨rfl, ⟨h₁, h₂, -⟩ | ⟨rfl, rfl⟩⟩
      · exact absurd ⟨h₁, h₂⟩ hw
      · exact ⟨rfl, rfl, rfl⟩

theorem openBracket_suffix {frames fs : List Frame} {outer u : Items}
    (hr : openBracket v frames outer c = .ok (fs, u, d)) : d.rest <:+ (c.advanceSkip v).rest := by
  obtain ⟨-, -, w, c₃, hh, -, hd⟩ := openBracket_ok.1 hr
  have hs := (hyphens_suffix hh).trans (afterOpen_suffix v c)
  obtain ⟨-, -, rfl, -⟩ | ⟨-, rfl, -⟩ := hd
  · exact (c₃.advanceSkip_suffix v).trans hs
  · exact hs

theorem openBracket_swap (e : Ends v t t') {frames frames' fs : List Frame} {outer outer' u : Items}
    (hf : frames'.map Frame.bare = frames.map Frame.bare) (ho : outer.Same outer')
    (h : Swap t t' c c') (hc : c.peek = some '[')
    (hr : openBracket v frames outer c = .ok (fs, u, d)) (hb : Before t d) :
    ∃ fs' u' d', openBracket v frames' outer' c' = .ok (fs', u', d') ∧
      fs'.map Frame.bare = fs.map Frame.bare ∧ u.Same u' ∧ Swap t t' d d' := by
  obtain ⟨-, -, w, c₃, hh, rfl, hd⟩ := openBracket_ok.1 hr
  have hs₃ : d.rest <:+ c₃.rest := by
    obtain ⟨-, -, rfl, -⟩ | ⟨-, rfl, -⟩ := hd
    · exact c₃.advanceSkip_suffix v
    · exact List.suffix_refl _
  have hb₃ := hb.of_suffix hs₃
  have hb₂ := hb₃.of_suffix (hyphens_suffix hh)
  obtain ⟨hn, h₂⟩ := afterOpen_swap e h hc hb₂
  have hu : (Items.start (afterOpen v c).span).Same (.start (afterOpen v c').span) := rfl
  obtain ⟨w', c₃', hh', hw, h₃⟩ :=
    hyphens_swap (p := c'.pos) e hu h₂ (Nat.le_refl _) (Nat.le_refl _) hh hb₃
  have hn₁ : (c'.advanceSkip v).rest ≠ [] :=
    ((hb₂.swap h₂).of_suffix (afterOpen_suffix v c')).rest_ne_nil
  have hn₂ := (hb₂.swap h₂).rest_ne_nil
  have bracket {d d' : Cursor} : List.map Frame.bare (.bracket (d'.spanFrom c'.pos)
      ((c'.advanceSkip v).peek == some '^') outer' :: frames') =
      List.map Frame.bare (.bracket (d.spanFrom c.pos)
        ((c.advanceSkip v).peek == some '^') outer :: frames) := by
    simp only [List.map_cons, Frame.bare, hn, hf, List.cons.injEq, Frame.bracket.injEq,
      Items.mk.injEq, true_and, and_true]
    exact ho
  obtain ⟨hw₀, hc₃, rfl, -, rfl⟩ | ⟨hw₀, rfl, rfl⟩ := hd
  · obtain ⟨hc₃', h₄⟩ := h₃.advanceSkip e hc₃ hb.suffix
    refine ⟨_, _, _, openBracket_ok.2 ⟨hn₁, hn₂, w', c₃', hh', rfl, .inl ⟨?_, hc₃', rfl,
      (hb.swap h₄).rest_ne_nil, rfl⟩⟩, bracket, ?_, h₄⟩
    · rw [hw.isEmpty, hw₀]
    · exact hw.push (by simp [ClassTree.bare, Literal.bare])
  · refine ⟨_, _, _, openBracket_ok.2 ⟨hn₁, hn₂, w', c₃', hh', rfl, .inr ⟨?_, rfl, rfl⟩⟩,
      bracket, hw, h₃⟩
    rwa [hw.isEmpty, hb.peek_eq h₃]

/-! ## Symbols and ranges -/

theorem peekSkip_go_swap (e : Ends v t t') {x : Char} (hx : x ≠ ')') {comment : Bool}
    {whole whole' : List Char} (hw : whole.head? ≠ some x) (hw' : whole'.head? ≠ some x)
    (w : List Char) :
    Cursor.peekSkip.go comment whole' (w ++ t') = some x ↔
      Cursor.peekSkip.go comment whole (w ++ t) = some x := by
  induction w generalizing comment with
  | nil =>
    -- At an end there is nothing to find, or a closing round bracket.
    have other {u whole : List Char} (hu : ∀ y ∈ u.head?, y = ')') (hw : whole.head? ≠ some x) :
        Cursor.peekSkip.go comment whole u ≠ some x := by
      cases u with
      | nil => exact hw
      | cons y u =>
        cases hu y rfl
        cases comment <;> exact fun h => hx (Option.some.inj h).symm
    exact ⟨fun h => absurd h (other e.right hw'), fun h => absurd h (other e.left hw)⟩
  | cons y w ih =>
    rw [List.cons_append, List.cons_append]
    unfold Cursor.peekSkip.go
    split
    · exact ih
    · split
      · exact ih
      · exact Iff.rfl

theorem peekSkip_swap (e : Ends v t t') {x : Char} (hx : x ≠ ')') (hb : Text.isBlank x = false)
    (hn : x ≠ '#') (h : Swap t t' c.advance c'.advance) :
    c'.peekSkip v = some x ↔ c.peekSkip v = some x := by
  have tail (c : Cursor) : c.rest.tail = c.advance.rest := by
    obtain ⟨p, _ | ⟨y, r⟩⟩ := c <;> rfl
  unfold Cursor.peekSkip Cursor.peekSecond
  rw [tail, tail]
  split
  · obtain ⟨w, h, h'⟩ := h
    rw [h, h']
    cases w with
    | nil =>
      exact peekSkip_go_swap e hx (fun h => hx (e.left x h)) (fun h => hx (e.right x h)) []
    | cons y w =>
      by_cases hy : y = x
      · subst hy
        simp [Cursor.peekSkip.go, hb, hn]
      · have hy (u : List Char) : (y :: w ++ u).head? ≠ some x := fun h => hy (Option.some.inj h)
        exact peekSkip_go_swap e hx (hy t) (hy t') (y :: w)
  · exact h.peek_iff e hx

/-- A hyphen is next that stands between the two ends of a range. -/
def IsRange (v : Bool) (c : Cursor) : Prop :=
  c.peek = some '-' ∧ c.peekSkip v ≠ some ']' ∧ c.peekSkip v ≠ some '-'

instance (v : Bool) (c : Cursor) : Decidable (IsRange v c) :=
  inferInstanceAs (Decidable (_ ∧ _ ∧ _))

theorem isRange_swap (e : Ends v t t') (h : Swap t t' c c') (hb : Before t c) :
    IsRange v c' ↔ IsRange v c := by
  obtain ⟨x, hx, ht⟩ := hb.peek
  have ha := h.advance hx ht
  unfold IsRange
  rw [hb.peek_eq h, ne_eq, ne_eq, peekSkip_swap e (by decide) (by decide) (by decide) ha,
    peekSkip_swap e (by decide) (by decide) (by decide) ha]

theorem item_ok {frames : List Frame} {ch : Char} {a : ClassTree} :
    item v frames ch c = .ok (a, d) ↔ ∃ lo c₁, Symbol.readInClass v ch c = .ok (lo, c₁) ∧
      (c₁.skip v).rest ≠ [] ∧
      ((¬ IsRange v (c₁.skip v) ∧ itemOf lo = .ok a ∧ d = c₁.skip v) ∨
      (IsRange v (c₁.skip v) ∧ ∃ ch₂ hi l h, ((c₁.skip v).advanceSkip v).peek = some ch₂ ∧
        Symbol.readInClass v ch₂ ((c₁.skip v).advanceSkip v) = .ok (hi, d) ∧
        boundOf lo = .ok l ∧ boundOf hi = .ok h ∧ ¬ h.char < l.char ∧
        a = .range ⟨lo.span.start, hi.span.stop⟩ l h)) := by
  have cond (c : Cursor) : (c.peek != some '-' || c.peekSkip v == some ']' ||
      c.peekSkip v == some '-') = true ↔ ¬ IsRange v c := by
    simp only [IsRange, Bool.or_eq_true, bne_iff_ne, beq_iff_eq, ne_eq]
    by_cases h₁ : c.peek = some '-' <;> by_cases h₂ : c.peekSkip v = some ']' <;> simp [h₁, h₂]
  obtain ⟨e₁, h₁⟩ := unclosed_eq (α := Unit) frames
  obtain ⟨e₂, h₂⟩ := unclosed_eq (α := ClassTree × Cursor) frames
  unfold item
  simp only [h₁, h₂, ↓fail_bind, guard_ok, bind_ok, Prod.exists, cond, Cursor.atEnd_iff]
  refine exists_congr fun lo => exists_congr fun c₁ => and_congr_right fun _ =>
    and_congr_right fun _ => ?_
  split
  · next hr =>
    simp only [bind_ok, hr, not_false_iff, true_and, false_and, or_false, Except.ok.injEq,
      Prod.mk.injEq]
    constructor
    · rintro ⟨b, hb, rfl, rfl⟩; exact ⟨hb, rfl⟩
    · rintro ⟨hb, rfl⟩; exact ⟨a, hb, rfl, rfl⟩
  · next hr =>
    simp only [hr, false_and, false_or]
    rw [Decidable.not_not] at hr
    simp only [hr, true_and]
    split
    · next hp => simp [fail_ok, hp]
    · next ch₂ hp =>
      simp only [hp, bind_ok, guard_ok, Prod.exists, Except.ok.injEq, Prod.mk.injEq,
        Option.some.injEq]
      constructor
      · rintro ⟨hi, e, hd, l, hl, h, hh, hlt, rfl, rfl⟩
        exact ⟨ch₂, hi, l, h, rfl, hd, hl, hh, hlt, rfl⟩
      · rintro ⟨_, hi, l, h, rfl, hd, hl, hh, hlt, rfl⟩
        exact ⟨hi, d, hd, l, hl, h, hh, hlt, rfl, rfl⟩

theorem itemOf_bare {x x' : Symbol} {a : ClassTree} (hx : x'.bare = x.bare) (h : itemOf x = .ok a) :
    ∃ a', itemOf x' = .ok a' ∧ a'.bare = a.bare := by
  cases x <;> cases h <;> cases x' <;> simp [Symbol.bare] at hx
  all_goals exact ⟨_, rfl, by simp [ClassTree.bare, hx]⟩

theorem boundOf_bare {x x' : Symbol} {l : Literal} (hx : x'.bare = x.bare) (h : boundOf x = .ok l) :
    ∃ l', boundOf x' = .ok l' ∧ l'.bare = l.bare := by
  cases x <;> cases h
  cases x' <;> simp [Symbol.bare] at hx
  exact ⟨_, rfl, hx⟩

theorem item_suffix {frames : List Frame} {ch : Char} {a : ClassTree}
    (hr : item v frames ch c = .ok (a, d)) : d.rest <:+ c.advance.rest := by
  obtain ⟨lo, c₁, hlo, -, h⟩ := item_ok.1 hr
  have hs := (c₁.skip_suffix v).trans (Symbol.readInClass_suffix hlo)
  obtain ⟨-, -, rfl⟩ | ⟨-, ch₂, hi, l, h, -, hhi, -⟩ := h
  · exact hs
  · exact (Symbol.readInClass_suffix hhi).trans
      ((Cursor.advance_suffix _).trans ((Cursor.advanceSkip_suffix v _).trans hs))

theorem item_swap (e : Ends v t t') {frames : List Frame} (frames' : List Frame) {ch : Char}
    {a : ClassTree} (h : Swap t t' c c') (hc : c.peek = some ch)
    (hr : item v frames ch c = .ok (a, d))
    (hb : Before t d) :
    ∃ a' d', item v frames' ch c' = .ok (a', d') ∧ a'.bare = a.bare ∧ Swap t t' d d' := by
  obtain ⟨lo, c₁, hlo, -, hr⟩ := item_ok.1 hr
  obtain ⟨hn, ha, rfl⟩ | ⟨hn, ch₂, hi, l, u, hp, hhi, hl, hu, hlt, rfl⟩ := hr
  · have ht₁ := hb.suffix.trans (c₁.skip_suffix v)
    obtain ⟨lo', c₁', hlo', hbare, h₁⟩ :=
      Symbol.readInClass_swap e h hc hlo ht₁ (by rintro s rfl; cases ha)
    have h₂ := h₁.skip e hb.suffix
    obtain ⟨a', ha', hab⟩ := itemOf_bare hbare ha
    exact ⟨a', _, item_ok.2 ⟨lo', c₁', hlo', (hb.swap h₂).rest_ne_nil,
      .inl ⟨fun h => hn ((isRange_swap e h₂ hb).1 h), ha', rfl⟩⟩, hab, h₂⟩
  · have ht₄ := hb.suffix.trans (Symbol.readInClass_suffix hhi)
    have ht₃ := ht₄.trans (Cursor.advance_suffix _)
    have ht₂ := ht₃.trans (Cursor.advanceSkip_suffix v _)
    have hb₂ : Before t (c₁.skip v) :=
      .of_advance hn.1 (ht₃.trans (Cursor.advanceSkip_suffix_advance v _))
    obtain ⟨lo', c₁', hlo', hbare, h₁⟩ := Symbol.readInClass_swap e h hc hlo
      (ht₂.trans (c₁.skip_suffix v)) (by rintro s rfl; cases hl)
    have h₂ := h₁.skip e ht₂
    obtain ⟨-, h₃⟩ := h₂.advanceSkip e hn.1 ht₃
    obtain ⟨hi', d', hhi', hbare₂, hd⟩ := Symbol.readInClass_swap e h₃ hp hhi hb.suffix
      (by rintro s rfl; cases hu)
    obtain ⟨l', hl', hlb⟩ := boundOf_bare hbare hl
    obtain ⟨u', hu', hub⟩ := boundOf_bare hbare₂ hu
    have hlc : l'.bare.char = l.bare.char := congrArg _ hlb
    have huc : u'.bare.char = u.bare.char := congrArg _ hub
    refine ⟨_, d', item_ok.2 ⟨lo', c₁', hlo', (hb₂.swap h₂).rest_ne_nil,
      .inr ⟨(isRange_swap e h₂ hb₂).2 hn, ch₂, hi', l', u', h₃.peek hp ht₄, hhi', hl', hu', ?_,
        rfl⟩⟩, ?_, hd⟩
    · simp only [Literal.bare] at hlc huc
      rwa [hlc, huc]
    · simp only [ClassTree.bare, hlb, hub]

end Swap

end Bracketed

end UrlMask.Regex
