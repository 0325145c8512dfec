import UrlMask.Proofs.Regex.ClassPart

/-!
# How bracketed classes are read

A class that is complete before the end of a text is the same class before any other end. Each of
its parts is followed by more of the class.

* `Bracketed.step_ok`: the steps through a class.
* `Bracketed.run_suffix`, `Bracketed.read_suffix`: what is left.
* `Bracketed.step_swap`: a part of a class before other ends.
* `Bracketed.read_swap`: the same class is read before other ends.
-/
namespace UrlMask.Regex

namespace Bracketed

section Swap

variable {t t' : List Char} {v : Bool} {c c' d : Cursor}

/-! ## Steps -/

namespace Step

/-- Where the step ends. -/
def place : Step → Cursor
  | more _ _ c => c
  | done _ c => c

/-- The end `t` lies beyond what has to follow the step. -/
def Within (t : List Char) : Step → Prop
  | more _ _ c => Before t c
  | done _ c => t <:+ c.rest

/-- The same step, read at another place before other ends. -/
inductive Same (t t' : List Char) : Step → Step → Prop
  | more {fs fs' u u' c c'} : fs'.map Frame.bare = fs.map Frame.bare → u.Same u' →
    Swap t t' c c' → Same t t' (.more fs u c) (.more fs' u' c')
  | done {cls cls' c c'} : cls'.bare = cls.bare → Swap t t' c c' →
    Same t t' (.done cls c) (.done cls' c')

theorem Within.suffix {r : Step} (h : r.Within t) : t <:+ r.place.rest := by
  cases r with
  | more => exact Before.suffix h
  | done => exact h

end Step

/-- The operator that is written as this character twice. -/
def opOfChar : Char → Option SetOp
  | '&' => some .inter
  | '-' => some .diff
  | '~' => some .symmDiff
  | _ => none

/-- The operator that comes next. -/
def opOf (c : Cursor) : Option SetOp :=
  if c.advance.peek = c.peek then c.peek.bind opOfChar else none

/-- The step that is taken from a place that is not a blank or in a comment. -/
inductive Steps (v : Bool) (frames : List Frame) (u : Items) (c : Cursor) : Step → Prop
  | posix {a d} : c.peek = some '[' → frames.isEmpty = false → posix? c = some (a, d) →
    Steps v frames u c (.more frames (u.push a) d)
  | bracket {fs w d} : c.peek = some '[' → frames.isEmpty = true ∨ posix? c = none →
    openBracket v frames u c = .ok (fs, w, d) → Steps v frames u c (.more fs w d)
  | close {r} : c.peek = some ']' → close frames u c = .ok r → Steps v frames u c r
  | op {kind} : opOf c = some kind → Steps v frames u c (operator kind frames u c)
  | item {ch a d} : c.peek = some ch → ch ≠ '[' → ch ≠ ']' → opOf c = none →
    item v frames ch c = .ok (a, d) → Steps v frames u c (.more frames (u.push a) d)

theorem peekSecond_eq (c : Cursor) : c.peekSecond = c.advance.peek := by
  obtain ⟨p, _ | ⟨x, r⟩⟩ := c <;> rfl

theorem operators_eq {ch : Char} (hc : c.peek = some ch) (f : SetOp → Step)
    (x : Except Fault Step) :
    (if ch = '&' ∧ c.peekSecond = some '&' then .ok (f .inter)
      else if ch = '-' ∧ c.peekSecond = some '-' then .ok (f .diff)
      else if ch = '~' ∧ c.peekSecond = some '~' then .ok (f .symmDiff)
      else x) = match opOf c with
        | some kind => .ok (f kind)
        | none => x := by
  rw [peekSecond_eq, opOf, hc, Option.bind_some]
  by_cases hp : c.advance.peek = some ch
  · rw [if_pos hp, hp]
    by_cases h₁ : ch = '&'
    · subst h₁; rfl
    · by_cases h₂ : ch = '-'
      · subst h₂; rfl
      · by_cases h₃ : ch = '~'
        · subst h₃; rfl
        · simp [opOfChar, h₁, h₂, h₃]
  · have h (y : Char) : ¬ (ch = y ∧ c.advance.peek = some y) := by
      rintro ⟨rfl, h⟩
      exact hp h
    rw [if_neg hp, if_neg (h _), if_neg (h _), if_neg (h _)]

theorem step_ok {frames : List Frame} {u : Items} {r : Step} :
    step v frames u c = .ok r ↔ Steps v frames u (c.skip v) r := by
  unfold step
  generalize c.skip v = c
  dsimp only
  obtain ⟨e, he⟩ := unclosed_eq (α := Step) frames
  constructor
  · intro h
    split at h
    · rw [he] at h; cases h
    · next hc =>
      split at h
      · next a d hp =>
        cases h
        split at hp
        · cases hp
        · next hf => exact .posix hc (by simpa using hf) hp
      · next hp =>
        obtain ⟨⟨fs, w, d⟩, ho, h⟩ := bind_ok.1 h
        cases h
        refine .bracket hc ?_ ho
        split at hp
        · next hf => exact .inl hf
        · exact .inr hp
    · next hc => exact .close hc h
    · next ch hl hr hc =>
      rw [operators_eq hc (operator · frames u c)] at h
      split at h
      · next ho => cases h; exact .op ho
      · next ho =>
        obtain ⟨⟨a, d⟩, hi, h⟩ := bind_ok.1 h
        cases h
        exact .item hc hl hr ho hi
  · intro h
    cases h with
    | posix hc hf hp => simp only [hc, hf, hp, Bool.false_eq_true, if_false]
    | bracket hc hp ho =>
      have : (if frames.isEmpty = true then none else posix? c) = none := by
        split
        · rfl
        · next hf => exact hp.resolve_left hf
      simp only [hc, this, ho]
      rfl
    | close hc h => simp only [hc, h]
    | op ho =>
      obtain ⟨ch, hc, hk⟩ : ∃ ch, c.peek = some ch ∧ opOfChar ch = some _ := by
        unfold opOf at ho
        split at ho
        · exact Option.bind_eq_some_iff.1 ho
        · cases ho
      have hl : ch ≠ '[' := by rintro rfl; cases hk
      have hr : ch ≠ ']' := by rintro rfl; cases hk
      split
      · next h => rw [hc] at h; cases h
      · next h => rw [hc] at h; exact absurd (Option.some.inj h) hl
      · next h => rw [hc] at h; exact absurd (Option.some.inj h) hr
      · next h => rw [operators_eq h (operator · frames u c), ho]
    | item hc hl hr ho hi =>
      split
      · next h => rw [hc] at h; cases h
      · next h => rw [hc] at h; exact absurd (Option.some.inj h) hl
      · next h => rw [hc] at h; exact absurd (Option.some.inj h) hr
      · next h =>
        rw [operators_eq h (operator · frames u c), ho]
        cases hc.symm.trans h
        rw [hi]
        rfl

theorem close_ok {frames : List Frame} {u : Items} {r : Step} :
    close frames u c = .ok r ↔ ∃ span negated outer fs,
      (closeOp u.toTree frames).2 = .bracket span negated outer :: fs ∧
      r = if fs.isEmpty then
          .done (.bracketed ⟨span.start, c.advance.pos⟩ negated (closeOp u.toTree frames).1)
            c.advance
        else .more fs
          (outer.push (.bracketed ⟨span.start, c.advance.pos⟩ negated (closeOp u.toTree frames).1))
          c.advance := by
  unfold close
  dsimp only
  generalize closeOp u.toTree frames = x
  obtain ⟨body, fs⟩ := x
  dsimp only
  split
  · next span negated outer fs =>
    simp only [List.cons.injEq, Frame.bracket.injEq]
    constructor
    · intro h
      refine ⟨_, _, _, _, ⟨⟨rfl, rfl, rfl⟩, rfl⟩, ?_⟩
      split at h <;> cases h <;> simp only [*, if_true, Bool.false_eq_true, if_false]
    · rintro ⟨_, _, _, _, ⟨⟨rfl, rfl, rfl⟩, rfl⟩, rfl⟩
      split <;> rfl
  · next h =>
    obtain ⟨e, he⟩ := unclosed_eq (α := Step) fs
    rw [he]
    simp only [fail_ok, false_iff]
    rintro ⟨span, negated, outer, gs, rfl, -⟩
    exact h _ _ _ _ rfl

theorem operator_eq (kind : SetOp) (frames : List Frame) (u : Items) (c : Cursor) :
    operator kind frames u c = .more
      (.op kind (closeOp u.toTree frames).1 :: (closeOp u.toTree frames).2)
      (.start c.advance.advance.span) c.advance.advance := rfl

theorem close_place {frames : List Frame} {u : Items} {r : Step} (h : close frames u c = .ok r) :
    r.place = c.advance := by
  obtain ⟨_, _, _, _, -, rfl⟩ := close_ok.1 h
  split <;> rfl

/-- A step passes the next character at least. -/
theorem step_suffix {frames : List Frame} {u : Items} {r : Step}
    (h : step v frames u c = .ok r) :
    ∃ x, (c.skip v).peek = some x ∧ r.place.rest <:+ (c.skip v).advance.rest := by
  cases step_ok.1 h with
  | @posix a d hc _ hp =>
    obtain ⟨negated, name, kind, hr, -⟩ := posix?_some hp
    refine ⟨_, hc, ?_⟩
    rw [Cursor.peek_eq_some.1 hc, posixText, List.append_assoc, List.append_assoc,
      List.cons_append, List.cons_append, List.cons.injEq] at hr
    rw [hr.2]
    exact List.suffix_append_of_suffix (List.suffix_append_of_suffix (List.suffix_append _ _))
  | bracket hc _ ho =>
    exact ⟨_, hc, (openBracket_suffix ho).trans (Cursor.advanceSkip_suffix_advance v _)⟩
  | close hc h => exact ⟨_, hc, close_place h ▸ List.suffix_refl _⟩
  | op ho =>
    cases hc : (c.skip v).peek with
    | none => simp [opOf, hc] at ho
    | some ch => exact ⟨ch, rfl, Cursor.advance_suffix _⟩
  | item hc _ _ _ hi => exact ⟨_, hc, item_suffix hi⟩

theorem close_swap {frames frames' : List Frame} {u u' : Items} {r : Step}
    (hf : frames'.map Frame.bare = frames.map Frame.bare) (hu : u.Same u')
    (h : Swap t t' c.advance c'.advance) (hr : close frames u c = .ok r) :
    ∃ r', close frames' u' c' = .ok r' ∧ r.Same t t' r' := by
  obtain ⟨span, negated, outer, fs, hx, rfl⟩ := close_ok.1 hr
  obtain ⟨hb, hfs⟩ := closeOp_bare hu.toTree hf
  rw [hx] at hfs
  obtain ⟨f', fs', hx', hf', hfs'⟩ : ∃ f' fs', (closeOp u'.toTree frames').2 = f' :: fs' ∧
      f'.bare = (Frame.bracket span negated outer).bare ∧
      fs'.map Frame.bare = fs.map Frame.bare := by
    simpa [List.map_eq_cons_iff] using hfs
  cases f' with
  | op => simp [Frame.bare] at hf'
  | bracket span' negated' outer' =>
    simp only [Frame.bare, Frame.bracket.injEq, Items.mk.injEq, true_and] at hf'
    obtain ⟨rfl, ho⟩ := hf'
    refine ⟨_, close_ok.2 ⟨_, _, _, _, hx', rfl⟩, ?_⟩
    rw [frames_isEmpty hfs']
    split
    · exact .done (by simp only [Ast.bare, hb]) h
    · exact .more hfs' (Items.Same.push ho (by simp only [ClassTree.bare, hb])) h

theorem opOf_swap (e : Ends v t t') (h : Swap t t' c c') {x : Char} (hx : c.peek = some x)
    (ht : t <:+ c.advance.rest) : opOf c' = opOf c := by
  unfold opOf
  rw [hx, h.peek hx ht]
  by_cases hp : x = ')'
  · subst hp
    simp [opOfChar]
  · simp only [(h.advance hx ht).peek_iff e hp]

/-- A part of a class is read the same before other ends, if more of the class follows. -/
theorem step_swap (e : Ends v t t') {frames frames' : List Frame} {u u' : Items} {r : Step}
    (hf : frames'.map Frame.bare = frames.map Frame.bare) (hu : u.Same u')
    (h : Swap t t' c c') (hr : step v frames u c = .ok r) (hw : r.Within t) :
    ∃ r', step v frames' u' c' = .ok r' ∧ r.Same t t' r' := by
  obtain ⟨x, hx, hs⟩ := step_suffix hr
  have ht := hw.suffix.trans hs
  have hs₁ := h.skip e (ht.trans (Cursor.advance_suffix _))
  simp only [step_ok] at hr ⊢
  cases hr with
  | posix hc hfr hp =>
    obtain ⟨hp', -⟩ | ⟨a, a', d, d', hp₁, hp', ha, hd⟩ := posix?_swap e hs₁
    · rw [hp'] at hp; cases hp
    · cases hp₁.symm.trans hp
      exact ⟨_, .posix (hs₁.peek hc ht) (by rwa [frames_isEmpty hf]) hp', .more hf (hu.push ha) hd⟩
  | bracket hc hp ho =>
    obtain ⟨fs', w', d', ho', hfs, hw, hd⟩ := openBracket_swap e hf hu hs₁ hc ho hw
    refine ⟨_, .bracket (hs₁.peek hc ht) (hp.imp (fun h => ?_) fun h => ?_) ho', .more hfs hw hd⟩
    · rwa [frames_isEmpty hf]
    · obtain ⟨-, hp'⟩ | ⟨a, a', d, d', hp₁, -⟩ := posix?_swap e hs₁
      · exact hp'
      · rw [hp₁] at h; cases h
  | close hc hr =>
    obtain ⟨r', hr', hs⟩ := close_swap hf hu (hs₁.advance hc ht) hr
    exact ⟨r', .close (hs₁.peek hc ht) hr', hs⟩
  | op ho =>
    have ho' := (opOf_swap e hs₁ hx ht).trans ho
    refine ⟨_, .op ho', ?_⟩
    rw [operator_eq] at hw ⊢
    rw [operator_eq]
    obtain ⟨y, hy⟩ : ∃ y, (c.skip v).advance.peek = some y := by
      unfold opOf at ho
      split at ho
      · next hp => exact ⟨x, hp.trans hx⟩
      · cases ho
    obtain ⟨hl, hfs⟩ := closeOp_bare hu.toTree hf
    have hadv := (hs₁.advance hx ht).advance hy (Before.suffix hw)
    exact .more (by simp only [List.map_cons, Frame.bare, hl, hfs]) rfl hadv
  | item hc hl hr ho hi =>
    obtain ⟨a', d', hi', ha, hd⟩ := item_swap e frames' hs₁ hc hi hw
    exact ⟨_, .item (hs₁.peek hc ht) hl hr ((opOf_swap e hs₁ hx ht).trans ho) hi',
      .more hf (hu.push ha) hd⟩

/-! ## Whole classes -/

theorem run_suffix {fuel : Nat} {frames : List Frame} {u : Items} {cls : Ast}
    (h : run v fuel frames u c = .ok (cls, d)) :
    ∃ x, (c.skip v).peek = some x ∧ d.rest <:+ (c.skip v).advance.rest := by
  induction fuel generalizing frames u c with
  | zero =>
    obtain ⟨e, he⟩ := unclosed_eq (α := Ast × Cursor) frames
    rw [run, he] at h
    cases h
  | succ fuel ih =>
    unfold run at h
    split at h
    · cases h
    · next hs => cases h; exact step_suffix hs
    · next fs w c₂ hs =>
      obtain ⟨x, hx, hr⟩ := step_suffix hs
      obtain ⟨y, -, hd⟩ := ih h
      exact ⟨x, hx, hd.trans ((Cursor.advance_suffix _).trans ((c₂.skip_suffix v).trans hr))⟩

/-- What is read is a bracketed class. -/
theorem run_bracketed {fuel : Nat} {frames : List Frame} {u : Items} {cls : Ast}
    (h : run v fuel frames u c = .ok (cls, d)) :
    ∃ span negated body, cls = .bracketed span negated body := by
  induction fuel generalizing frames u c with
  | zero =>
    obtain ⟨e, he⟩ := unclosed_eq (α := Ast × Cursor) frames
    rw [run, he] at h
    cases h
  | succ fuel ih =>
    unfold run at h
    split at h
    · cases h
    · next hs =>
      cases h
      cases step_ok.1 hs with
      | close _ hr =>
        obtain ⟨span, negated, outer, fs, -, hr⟩ := close_ok.1 hr
        split at hr <;> cases hr
        exact ⟨_, _, _, rfl⟩
    · exact ih h

theorem run_swap (e : Ends v t t') {fuel fuel' : Nat} {frames frames' : List Frame}
    {u u' : Items} {cls : Ast} (hf : frames'.map Frame.bare = frames.map Frame.bare)
    (hu : u.Same u') (h : Swap t t' c c') (hl : c'.rest.length < fuel')
    (hr : run v fuel frames u c = .ok (cls, d)) (ht : t <:+ d.rest) :
    ∃ cls' d', run v fuel' frames' u' c' = .ok (cls', d') ∧ cls'.bare = cls.bare ∧
      Swap t t' d d' := by
  induction fuel generalizing frames frames' u u' c c' fuel' with
  | zero =>
    obtain ⟨e, he⟩ := unclosed_eq (α := Ast × Cursor) frames
    rw [run, he] at hr
    cases hr
  | succ fuel ih =>
    obtain _ | fuel' := fuel'
    · omega
    · unfold run at hr ⊢
      split at hr
      · cases hr
      · next hs =>
        cases hr
        obtain ⟨r', hs', hd⟩ := step_swap e hf hu h hs ht
        rw [hs']
        cases hd with
        | done hb hd => exact ⟨_, _, rfl, hb, hd⟩
      · next fs w c₂ hs =>
        obtain ⟨y, hy, hd⟩ := run_suffix hr
        have hb : Before t c₂ :=
          (Before.of_advance hy (ht.trans hd)).of_suffix (c₂.skip_suffix v)
        obtain ⟨r', hs', hsame⟩ := step_swap e hf hu h hs hb
        obtain ⟨x, hx, hlt⟩ := step_suffix hs'
        rw [hs']
        cases hsame with
        | more hfs hw hc₂ =>
          refine ih hfs hw hc₂ ?_ hr
          have := hlt.length_le
          have := Cursor.advance_lt hx
          have := (c'.skip_suffix v).length_le
          simp only [Step.place] at *
          omega

theorem read_suffix {cls : Ast} (h : read v c = .ok (cls, d)) :
    ∃ x, (c.skip v).peek = some x ∧ d.rest <:+ (c.skip v).advance.rest :=
  run_suffix h

/-- A class that is complete before the end of a text is the same before any other end. -/
theorem read_swap (e : Ends v t t') {cls : Ast} (h : Swap t t' c c')
    (hr : read v c = .ok (cls, d)) (ht : t <:+ d.rest) :
    ∃ cls' d', read v c' = .ok (cls', d') ∧ cls'.bare = cls.bare ∧ Swap t t' d d' := by
  have hu : (Items.start c.span).Same (.start c'.span) := rfl
  exact run_swap e rfl hu h (Nat.lt_succ_self _) hr ht

end Swap

end Bracketed

end UrlMask.Regex
