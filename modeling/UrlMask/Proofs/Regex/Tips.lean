import UrlMask.Proofs.Regex.Run

/-!
# What later steps see of a state

A step looks at the trees that were read before it in one case only: a repetition needs a last item
that can be repeated. States that agree in this go through the same steps, whatever was read before.

* `Parser.State.Alike`: states that later steps cannot tell apart.
* `Parser.Steps.alike`, `Parser.Reaches.alike`: they take the same steps.
-/
namespace UrlMask.Regex

namespace Parser

/-- Whether the level has a last item, and whether that can be repeated. -/
def Level.tip (l : Level) : Option Bool := l.items.head?.map Ast.isRepeatable

def Open.tip (g : Open) : Bool × Option Bool := (g.verbose, g.outer.tip)

/-- Later steps cannot tell the states apart. -/
structure State.Alike (s s' : State) : Prop where
  verbose : s'.verbose = s.verbose
  names : s'.names = s.names
  level : s'.level.tip = s.level.tip
  groups : s'.groups.map Open.tip = s.groups.map Open.tip

variable {s s' s₁ : State} {c d : Cursor}

theorem State.Alike.with_level (h : s.Alike s') {l l' : Level} (hl : l'.tip = l.tip) :
    State.Alike { s with level := l } { s' with level := l' } :=
  ⟨h.verbose, h.names, hl, h.groups⟩

theorem State.Alike.items (h : s.Alike s') {a : Ast} {as : List Ast} (hi : s.level.items = a :: as)
    (ha : a.isRepeatable = true) :
    ∃ a' as', s'.level.items = a' :: as' ∧ a'.isRepeatable = true := by
  have hl := h.level
  rw [Level.tip, Level.tip, hi] at hl
  cases hi' : s'.level.items with
  | nil => rw [hi'] at hl; cases hl
  | cons a' as' =>
    rw [hi'] at hl
    exact ⟨a', as', rfl, (Option.some.inj hl).trans ha⟩

/-- The same step can be taken. -/
theorem Steps.alike (h : Steps s c s₁ d) (ha : s.Alike s') :
    ∃ s₁', Steps s' c s₁' d ∧ s₁.Alike s₁' := by
  have hv := ha.verbose
  have hn := ha.names
  cases h with
  | @flags span setting n d hp ho =>
    rw [← hv, ← hn] at ho
    refine ⟨_, .flags hp ho, ?_, rfl, rfl, ha.groups⟩
    rw [hv]
  | @enter span kind n d hp ho =>
    rw [← hv, ← hn] at ho
    refine ⟨_, .enter hp ho, ?_, rfl, rfl, ?_⟩
    · rw [State.enter, State.enter, hv]
    · simp only [State.enter, List.map_cons, ha.groups, Open.tip, hv, ha.level]
  | leave hp hg =>
    have hgs := ha.groups
    rw [hg, List.map_cons] at hgs
    obtain ⟨g', gs', hg', hb, hgs⟩ := List.map_eq_cons_iff.1 hgs
    exact ⟨_, .leave hp hg', congrArg Prod.fst hb, hn, rfl, hgs⟩
  | bar hp => exact ⟨_, .bar hp, ha.with_level rfl⟩
  | cls hp hr =>
    rw [← hv] at hr
    exact ⟨_, .cls hp hr, ha.with_level rfl⟩
  | plain hp hk hi hr hl =>
    obtain ⟨a', as', hi', hr'⟩ := ha.items hi hr
    exact ⟨_, .plain hp hk hi' hr' hl, ha.with_level rfl⟩
  | counted hp hi hr hb hm hl =>
    obtain ⟨a', as', hi', hr'⟩ := ha.items hi hr
    rw [← hv] at hb hl
    exact ⟨_, .counted hp hi' hr' hb hm hl, ha.with_level rfl⟩
  | symbol hp hs hx =>
    rw [← hv] at hx
    exact ⟨_, .symbol hp hs hx, ha.with_level rfl⟩

/-- The same run can be gone through. -/
theorem Reaches.alike (h : Reaches s c s₁ d) (ha : s.Alike s') :
    ∃ s₁', Reaches s' c s₁' d ∧ s₁.Alike s₁' := by
  induction h generalizing s' with
  | refl => exact ⟨s', .refl, ha⟩
  | step h _ ih =>
    obtain ⟨s₂, h', ha'⟩ := h.alike ha
    obtain ⟨s₃, hr, ha''⟩ := ih ha'
    rw [← ha.verbose] at h'
    exact ⟨s₃, .step h' hr, ha''⟩

end Parser

end UrlMask.Regex
