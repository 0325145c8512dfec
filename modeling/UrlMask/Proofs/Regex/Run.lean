import UrlMask.Proofs.Regex.Step

/-!
# Runs of the reader

A run is any number of steps. Inside a group the reader goes through the same states as outside
of it, with the group under them, until a closing bracket comes that belongs to the group.

* `Parser.run_ok`: the reader succeeds when a run comes to the end of the text.
* `Parsed.ofText_ok`: a pattern is accepted when a run ends with no group open.
* `Parser.Reaches.under`: a run, inside further groups.
* `Parser.Reaches.closes`: a run that leaves a group has a part inside the group.
* `Parser.Reaches.swap`: the same run, before other ends.
-/
namespace UrlMask.Regex

namespace Parser

/-- Steps lead from one state and place to another. Before each of them blanks and comments are
passed over. -/
inductive Reaches : State → Cursor → State → Cursor → Prop
  | refl {s c} : Reaches s c s c
  | step {s c s₁ c₁ s₂ c₂} : Steps s (c.skip s.verbose) s₁ c₁ → Reaches s₁ c₁ s₂ c₂ →
    Reaches s c s₂ c₂

namespace Reaches

variable {s s₁ s₂ : State} {c c₁ c₂ : Cursor}

theorem trans (h₁ : Reaches s c s₁ c₁) (h₂ : Reaches s₁ c₁ s₂ c₂) : Reaches s c s₂ c₂ := by
  induction h₁ with
  | refl => exact h₂
  | step h _ ih => exact .step h (ih h₂)

theorem one (h : Steps s (c.skip s.verbose) s₁ c₁) : Reaches s c s₁ c₁ := .step h .refl

theorem suffix (h : Reaches s c s₁ c₁) : c₁.rest <:+ c.rest := by
  induction h with
  | refl => exact List.suffix_refl _
  | @step s c _ _ _ _ h _ ih =>
    exact ih.trans (h.suffix.trans ((Cursor.advance_suffix _).trans (c.skip_suffix s.verbose)))

end Reaches

/-- The reader succeeds when a run comes to the end of the text. -/
theorem run_ok {fuel : Nat} {s s' : State} {c d : Cursor} (hf : c.rest.length < fuel) :
    run fuel s c = .ok (s', d) ↔
      ∃ c₁, Reaches s c s' c₁ ∧ d = c₁.skip s'.verbose ∧ d.rest = [] := by
  induction fuel generalizing s c with
  | zero => omega
  | succ fuel ih =>
    unfold run
    dsimp only
    split
    · next hr =>
      constructor
      · intro h; cases h; exact ⟨c, .refl, rfl, hr⟩
      · rintro ⟨c₁, h, rfl, -⟩
        cases h with
        | refl => rfl
        | step h _ =>
          obtain ⟨x, hx⟩ := h.peek
          rw [Cursor.peek_eq_none.2 hr] at hx
          cases hx
    · next ch r hr =>
      have hp : (c.skip s.verbose).peek = some ch := by rw [Cursor.peek, hr]; rfl
      have hlt := (c.skip_suffix s.verbose).length_le
      have shorter {s₁ c₁} (h : Steps s (c.skip s.verbose) s₁ c₁) : c₁.rest.length < fuel := by
        have := h.suffix.length_le
        have := Cursor.advance_lt hp
        omega
      constructor
      · intro h
        split at h
        · cases h
        · next hs =>
          have hs := (step_ok hp).1 hs
          obtain ⟨c₂, h₂, hd⟩ := (ih (shorter hs)).1 h
          exact ⟨c₂, .step hs h₂, hd⟩
      · rintro ⟨c₁, h, rfl, hd⟩
        cases h with
        | refl => rw [hr] at hd; cases hd
        | step hs h =>
          rw [(step_ok hp).2 hs]
          exact (ih (shorter hs)).2 ⟨c₁, h, rfl, hd⟩

/-- A text is read as a tree if a run through it ends with no group open. -/
def ReadsAs (text : List Char) (s : State) (ast : Ast) : Prop :=
  ∃ c, Reaches .init ⟨0, text⟩ s c ∧ (c.skip s.verbose).rest = [] ∧ s.groups = [] ∧
    ast = s.level.toAst (c.skip s.verbose).pos

/-- A run through `u`, where `t` follows, ends before `t` with no group open. -/
def ReadsTo (u t : List Char) (s : State) : Prop :=
  ∃ c, Reaches .init ⟨0, u ++ t⟩ s c ∧ (c.skip s.verbose).rest = t ∧ s.groups = []

end Parser

/-- The tree of a pattern, whatever its depth. -/
def Ast.ofText (pattern : List Char) : Except Fault Ast := do
  let (s, c) ← Parser.run (pattern.length + 1) .init ⟨0, pattern⟩
  Parser.finish s c

theorem Ast.ofText_ok {text : List Char} {ast : Ast} :
    Ast.ofText text = .ok ast ↔ ∃ s, Parser.ReadsAs text s ast := by
  have hrun (s : Parser.State) (d : Cursor) :
      Parser.run (text.length + 1) .init ⟨0, text⟩ = .ok (s, d) ↔
        ∃ c, Parser.Reaches .init ⟨0, text⟩ s c ∧ d = c.skip s.verbose ∧ d.rest = [] :=
    Parser.run_ok (Nat.lt_succ_self _)
  unfold Ast.ofText
  simp only [bind_ok, Prod.exists, hrun]
  constructor
  · rintro ⟨s, d, ⟨c, hc, rfl, hd⟩, hfin⟩
    unfold Parser.finish at hfin
    split at hfin
    · next hg => cases hfin; exact ⟨s, c, hc, hd, hg, rfl⟩
    · cases hfin
  · rintro ⟨s, c, hc, hd, hg, rfl⟩
    exact ⟨s, _, ⟨c, hc, rfl, hd⟩, by rw [Parser.finish, hg]⟩

/-- A pattern is accepted if it has a tree that is not too deep. -/
theorem Parsed.ofText_eq (text : List Char) : Parsed.ofText text = Ast.ofText text >>= fun ast =>
    match ast.tooDeep nestLimit 0 with
    | some span => .error ⟨.nestLimitExceeded nestLimit, span⟩
    | none => .ok ⟨ast, ast.groupNames⟩ := by
  unfold Parsed.ofText Ast.ofText
  cases Parser.run (text.length + 1) .init ⟨0, text⟩ <;> rfl

theorem Parsed.ofText_ok {text : List Char} {p : Parsed} : Parsed.ofText text = .ok p ↔
    Ast.ofText text = .ok p.ast ∧ p.ast.tooDeep nestLimit 0 = none ∧
      p.names = p.ast.groupNames := by
  rw [Parsed.ofText_eq, bind_ok]
  constructor
  · rintro ⟨ast, h, hp⟩
    split at hp
    · cases hp
    · next hdeep => cases hp; exact ⟨h, hdeep, rfl⟩
  · rintro ⟨h, hdeep, hn⟩
    refine ⟨p.ast, h, ?_⟩
    rw [hdeep, ← hn]

namespace Parser

/-! ## There is one run -/

section Unique

variable {s s₁ s₂ : State} {c c₁ c₂ d₁ d₂ : Cursor}

theorem Steps.unique (h₁ : Steps s c s₁ d₁) (h₂ : Steps s c s₂ d₂) : s₁ = s₂ ∧ d₁ = d₂ := by
  obtain ⟨x, hx⟩ := h₁.peek
  have h := ((step_ok hx).2 h₁).symm.trans ((step_ok hx).2 h₂)
  cases h
  exact ⟨rfl, rfl⟩

/-- No step can be taken. -/
def Stuck (s : State) (c : Cursor) : Prop := ∀ s₁ c₁, ¬ Steps s (c.skip s.verbose) s₁ c₁

theorem stuck_of_end (h : (c.skip s.verbose).rest = []) : Stuck s c := by
  intro s₁ c₁ hs
  obtain ⟨x, hx⟩ := hs.peek
  rw [Cursor.peek_eq_none.2 h] at hx
  cases hx

/-- A closing round bracket needs a group that is open. -/
theorem stuck_of_close (hg : s.groups = []) (h : (c.skip s.verbose).peek = some ')') :
    Stuck s c := by
  intro s₁ c₁ hs
  obtain ⟨g, gs, hg', -⟩ := hs.of_close h
  rw [hg] at hg'
  cases hg'

/-- A run that cannot go on passes through all that can be reached. -/
theorem Reaches.confluent (h₁ : Reaches s c s₁ c₁) (h₂ : Reaches s c s₂ c₂) (hs : Stuck s₂ c₂) :
    Reaches s₁ c₁ s₂ c₂ := by
  induction h₁ with
  | refl => exact h₂
  | step h _ ih =>
    cases h₂ with
    | refl => exact absurd h (hs _ _)
    | step h' h₂ =>
      obtain ⟨rfl, rfl⟩ := h.unique h'
      exact ih h₂

theorem Reaches.unique (h₁ : Reaches s c s₁ c₁) (hs₁ : Stuck s₁ c₁) (h₂ : Reaches s c s₂ c₂)
    (hs₂ : Stuck s₂ c₂) : s₁ = s₂ ∧ c₁ = c₂ := by
  cases h₁.confluent h₂ hs₂ with
  | refl => exact ⟨rfl, rfl⟩
  | step h _ => exact absurd h (hs₁ _ _)

end Unique

/-! ## Groups -/

section Groups

variable {s s₁ s₂ : State} {c c₁ c₂ : Cursor}

theorem Reaches.under (h : Reaches s c s₁ c₁) (gs : List Open) :
    Reaches (s.under gs) c (s₁.under gs) c₁ := by
  induction h with
  | refl => exact .refl
  | step h _ ih => exact .step (h.under gs) ih

/-- What a closing round bracket does to a state in which only the groups `g :: gs` are open. -/
def State.back (s : State) (g : Open) (gs : List Open) (c : Cursor) : State :=
  (s.under (g :: gs)).leave g gs c

/-- A run that leaves the group `g` goes on inside it until its closing bracket comes. -/
theorem Reaches.closes {g : Open} {gs : List Open} (h : Reaches (s.under (g :: gs)) c s₂ c₂)
    (hl : s₂.groups.length ≤ gs.length) : ∃ s₁ c₁, Reaches s c s₁ c₁ ∧ s₁.groups = [] ∧
      (c₁.skip s₁.verbose).peek = some ')' ∧
      Reaches (s₁.back g gs (c₁.skip s₁.verbose)) (c₁.skip s₁.verbose).advance s₂ c₂ := by
  generalize hu : s.under (g :: gs) = u at h
  induction h generalizing s with
  | refl =>
    subst hu
    simp only [State.under, List.length_append, List.length_cons] at hl
    omega
  | @step u c u₁ c₁ u₂ c₂ hs hr ih =>
    subst hu
    obtain ⟨s₁, rfl, hs₁⟩ | ⟨hg, hp⟩ := hs.of_under
    · obtain ⟨s₃, c₃, h₃, hrest⟩ := ih hl rfl
      exact ⟨s₃, c₃, .step hs₁ h₃, hrest⟩
    · refine ⟨s, c, .refl, hg, hp, ?_⟩
      obtain ⟨g', gs', hg', rfl, rfl⟩ := hs.of_close hp
      rw [State.under, hg, List.nil_append, List.cons.injEq] at hg'
      obtain ⟨rfl, rfl⟩ := hg'
      exact hr

end Groups

/-! ## Runs before other ends -/

section Swap

variable {b b' : List String} {s s₁ s₂ s' : State} {c c₁ c₂ c' d : Cursor} {t t' : List Char}

theorem Steps.texts (h : Steps s c s₁ d) : s.names.texts ⊆ s₁.names.texts := by
  cases h with
  | flags _ ho =>
    rw [(Group.readOpen_texts ho).1]
    exact List.subset_append_right _ _
  | enter _ ho =>
    have := (Group.readOpen_texts ho).1
    simp only [State.enter, this]
    exact List.subset_append_right _ _
  | leave | bar | cls | plain | counted | symbol => exact List.Subset.refl _

theorem Steps.nodup (h : Steps s c s₁ d) (hs : s.names.texts.Nodup) : s₁.names.texts.Nodup := by
  have head {head : Group.Head} {n : Group.Names} {e : Cursor}
      (ho : Group.readOpen s.verbose s.names c = .ok (head, n, e)) : n.texts.Nodup := by
    obtain ⟨ht, hn⟩ := Group.readOpen_texts ho
    rw [ht]
    unfold Group.Head.names at hn ⊢
    split at hn
    · exact List.nodup_cons.2 ⟨hn _ (List.mem_singleton.2 rfl), hs⟩
    · exact hs
  cases h with
  | flags _ ho => exact head ho
  | enter _ ho => exact head ho
  | leave | bar | cls | plain | counted | symbol => exact hs

/-- No name is taken twice. -/
theorem Reaches.nodup (h : Reaches s c s₁ c₁) (hs : s.names.texts.Nodup) :
    s₁.names.texts.Nodup := by
  induction h with
  | refl => exact hs
  | step h _ ih => exact ih (h.nodup hs)

theorem Reaches.texts (h : Reaches s c s₁ c₁) : s.names.texts ⊆ s₁.names.texts := by
  induction h with
  | refl => exact List.Subset.refl _
  | step h _ ih => exact List.Subset.trans h.texts ih

/-- No state on the way is verbose. -/
def Quiet (s : State) (c : Cursor) (s₁ : State) (c₁ : Cursor) : Prop :=
  ∀ s₂ c₂, Reaches s c s₂ c₂ → Reaches s₂ c₂ s₁ c₁ → s₂.verbose = false

/-- After the brace of a counted repetition there is more before its end. -/
theorem Steps.counted_suffix (h : Steps s c s₁ d) (hc : c.peek = some '\x7b') :
    d.rest <:+ (c.advanceSkip s.verbose).advance.rest := by
  cases h with
  | counted _ _ _ hb _ hl =>
    refine (lazyMark_suffix hl).trans ((Cursor.advanceSkip_suffix_advance _ _).trans ?_)
    exact Cursor.advance_suffix_advance hb.peek hb.suffix
  | plain hp hk => cases hc.symm.trans hp; cases hk
  | symbol hp hs => cases hc.symm.trans hp; cases hs
  | flags hp | enter hp | leave hp | bar hp | cls hp => cases hc.symm.trans hp

/-- A run to the end `t` is the same to any other end, if the names that it takes are free. An
end that is empty can only be exchanged where no comment can be open. -/
theorem Reaches.swap (h : Reaches s c s₁ c₁) (hend : (c₁.skip s₁.verbose).rest = t)
    (hs : Swap t t' c c') (same : s.Same b b' s') (hl : ∀ x ∈ t.head?, x = ')')
    (hr : ∀ x ∈ t'.head?, x = ')') (hq : t = [] → t' ≠ [] → Quiet s c s₁ c₁)
    (hn : ∀ name ∈ s₁.names.texts, name ∈ b' → name ∈ b) :
    ∃ s₁' c₁', Reaches s' c' s₁' c₁' ∧ s₁.Same b b' s₁' ∧ (c₁'.skip s₁'.verbose).rest = t' := by
  have ends {s₂ c₂} (h₁ : Reaches s c s₂ c₂) (h₂ : Reaches s₂ c₂ s₁ c₁) : Ends s₂.verbose t t' := by
    refine ⟨hl, hr, fun hv ht => Decidable.byContradiction fun hne => ?_⟩
    rw [hq ht hne s₂ c₂ h₁ h₂] at hv
    cases hv
  clear hq
  induction h generalizing s' c' with
  | @refl s c =>
    obtain ⟨w, hw, hw'⟩ := hs.skip (ends .refl .refl) (hend.symm ▸ List.suffix_refl _)
    rw [hend] at hw
    have hw₀ : w = [] := by simpa using hw
    rw [← same.verbose, hw₀] at hw'
    exact ⟨s', c', .refl, same, hw'⟩
  | @step s c s₃ c₃ s₁ c₁ hstep hrest ih =>
    have e := ends .refl (.step hstep hrest)
    have ht₃ : t <:+ c₃.rest := by
      rw [← hend]
      exact (Cursor.skip_suffix _ _).trans hrest.suffix
    have ht := ht₃.trans hstep.suffix
    have hs₁ := hs.skip e (ht.trans (Cursor.advance_suffix _))
    -- What follows a brace is read by the next step, before the end.
    have hbrace (hb : c₃.peek = some '\x7b') : ∀ y, (c₃.advanceSkip s₃.verbose).peek = some y →
        t <:+ (c₃.advanceSkip s₃.verbose).advance.rest := by
      intro y _
      have hskip := Cursor.skip_of_peek hb (by decide) (by decide) s₃.verbose
      cases hrest with
      | refl =>
        rw [hskip, Cursor.peek_eq_some.1 hb] at hend
        have := hl _ (hend ▸ rfl : t.head? = some '\x7b')
        cases this
      | step hstep' hrest' =>
        rw [hskip] at hstep'
        rw [← hend]
        exact ((Cursor.skip_suffix _ _).trans hrest'.suffix).trans (hstep'.counted_suffix hb)
    obtain ⟨s₃', c₃', hstep', same₃, hs₃⟩ := hstep.swap e hs₁ ht₃ same
      (fun name h => hn name (hrest.texts h)) hbrace
    obtain ⟨s₁', c₁', hrest', same₁, hend'⟩ := ih hend hs₃ same₃ hn
      fun h₁ h₂ => ends (.step hstep h₁) h₂
    rw [← same.verbose] at hstep'
    exact ⟨s₁', c₁', .step hstep' hrest', same₁, hend'⟩

/-- What is read alone before `t` is read before `t'` from any state that the same can follow. -/
theorem ReadsTo.swap {u : List Char} (h : ReadsTo u t s₁) (hc : c'.rest = u ++ t')
    (same : State.init.Same [] b' s') (hl : ∀ x ∈ t.head?, x = ')') (hr : ∀ x ∈ t'.head?, x = ')')
    (hq : t = [] → t' ≠ [] → ∀ c, Quiet .init ⟨0, u ++ t⟩ s₁ c)
    (hn : ∀ name ∈ s₁.names.texts, name ∉ b') :
    ∃ s₁' c₁', Reaches s' c' s₁' c₁' ∧ s₁.Same [] b' s₁' ∧ s₁'.groups = [] ∧
      (c₁'.skip s₁'.verbose).rest = t' := by
  obtain ⟨c, h, hend, hg⟩ := h
  obtain ⟨s₁', c₁', h', same', hend'⟩ := h.swap hend ⟨u, rfl, hc⟩ same hl hr
    (fun ht ht' => hq ht ht' c) fun name h h' => absurd h' (hn name h)
  exact ⟨s₁', c₁', h', same', same'.groups_nil hg, hend'⟩

end Swap

end Parser

end UrlMask.Regex
