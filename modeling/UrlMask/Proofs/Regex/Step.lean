import UrlMask.Proofs.Regex.Class
import UrlMask.Proofs.Regex.Group
import UrlMask.Proofs.Regex.Repeat

/-!
# What one step of the reader does

`Parser.Steps` says what the reader can do at a place where something is left. Every other fact
about steps is a case analysis of it.

* `Parser.step_ok`: the steps are those of the reader.
* `Parser.Steps.suffix`: a step passes the next character.
* `Parser.Steps.under`: a step does not see the groups further out.
* `Parser.Steps.swap`: the same step is taken before other ends.
-/
namespace UrlMask.Regex

namespace Parser

/-! ## Steps -/

/-- The bounds of a repetition that is written as one character. -/
def plainOf : Char → Option (Nat × Option Nat)
  | '?' => some (0, some 1)
  | '*' => some (0, none)
  | '+' => some (1, none)
  | _ => none

/-- Whether the character begins a symbol. -/
def isSymbol (ch : Char) : Bool := !"()|[?*+\x7b".toList.contains ch

/-- The level with one more item. -/
def State.push (s : State) (a : Ast) : State := { s with level := s.level.push a }

/-- The level with `a` in the place of its last item, of which `as` are those before. -/
def State.replace (s : State) (as : List Ast) (a : Ast) : State :=
  { s with level := { s.level with items := a :: as } }

/-- The state that a group sets the verbose flag to, if it sets it. -/
def verboseIn : GroupKind → Option Bool
  | .plain setting => verboseOf setting
  | .capture _ _ => none

/-- The state inside a group that begins at `pos`. -/
def State.enter (s : State) (span : Span) (kind : GroupKind) (names : Group.Names) (pos : Nat) :
    State where
  verbose := (verboseIn kind).getD s.verbose
  groups := ⟨span, kind, s.level, s.verbose⟩ :: s.groups
  level := .begin' pos
  names := names

/-- The state after the innermost group, which is `g`, is closed. -/
def State.leave (s : State) (g : Open) (gs : List Open) (c : Cursor) : State where
  verbose := g.verbose
  groups := gs
  level := g.outer.push (.group ⟨g.span.start, c.advance.pos⟩ g.kind (s.level.toAst c.pos))
  names := s.names

/-- The step from `s` at `c`, where a character is next that is not passed over. -/
inductive Steps (s : State) (c : Cursor) : State → Cursor → Prop
  | flags {span setting n d} : c.peek = some '(' →
    Group.readOpen s.verbose s.names c = .ok (.setFlags span setting, n, d) →
    Steps s c
      ⟨(verboseOf setting).getD s.verbose, s.groups, s.level.push (.flags span setting), n⟩ d
  | enter {span kind n d} : c.peek = some '(' →
    Group.readOpen s.verbose s.names c = .ok (.opened span kind, n, d) →
    Steps s c (s.enter span kind n d.pos) d
  | leave {g gs} : c.peek = some ')' → s.groups = g :: gs → Steps s c (s.leave g gs c) c.advance
  | bar : c.peek = some '|' → Steps s c { s with level := s.level.nextBranch c.pos } c.advance
  | cls {a d} : c.peek = some '[' → Bracketed.read s.verbose c = .ok (a, d) →
    Steps s c (s.push a) d
  | plain {ch min max a as d greedy} : c.peek = some ch → plainOf ch = some (min, max) →
    s.level.items = a :: as → a.isRepeatable = true → lazyMark c.advance = (greedy, d) →
    Steps s c (s.replace as (.repetition ⟨a.span.start, d.pos⟩ min max greedy a)) d
  | counted {min max c₁ a as d greedy} : c.peek = some '\x7b' → s.level.items = a :: as →
    a.isRepeatable = true → Bounds s.verbose (c.advanceSkip s.verbose) min max c₁ →
    (∀ m ∈ max, min ≤ m) → lazyMark (c₁.advanceSkip s.verbose) = (greedy, d) →
    Steps s c (s.replace as (.repetition ⟨a.span.start, d.pos⟩ min max greedy a)) d
  | symbol {ch x d} : c.peek = some ch → isSymbol ch = true →
    Symbol.read s.verbose ch c = .ok (x, d) → Steps s c (s.push x.toAst) d

theorem repeated_ok {s s' : State} {c : Cursor} {a : Ast} :
    repeated s c = .ok (a, s') ↔ ∃ as, s.level.items = a :: as ∧ a.isRepeatable = true ∧
      s' = { s with level := { s.level with items := as } } := by
  unfold repeated
  cases hi : s.level.items with
  | nil => simp [fail_ok]
  | cons b bs =>
    dsimp only
    split
    · next hr =>
      simp only [Except.ok.injEq, Prod.mk.injEq, List.cons.injEq]
      constructor
      · rintro ⟨rfl, rfl⟩; exact ⟨bs, ⟨rfl, rfl⟩, hr, rfl⟩
      · rintro ⟨as, ⟨rfl, rfl⟩, -, rfl⟩; exact ⟨rfl, rfl⟩
    · next hr =>
      simp only [fail_ok, List.cons.injEq, false_iff]
      rintro ⟨as, ⟨rfl, rfl⟩, h, -⟩
      exact hr h

variable {s s' : State} {c d : Cursor} {ch : Char}

theorem repeatPlain_ok {min : Nat} {max : Option Nat} :
    repeatPlain min max s c = .ok (s', d) ↔ ∃ a as greedy, s.level.items = a :: as ∧
      a.isRepeatable = true ∧ lazyMark c.advance = (greedy, d) ∧
      s' = s.replace as (.repetition ⟨a.span.start, d.pos⟩ min max greedy a) := by
  unfold repeatPlain
  simp only [bind_ok, Prod.exists, repeated_ok]
  constructor
  · rintro ⟨a, _, ⟨as, hi, hr, rfl⟩, h⟩
    cases h
    exact ⟨a, as, _, hi, hr, rfl, rfl⟩
  · rintro ⟨a, as, greedy, hi, hr, hl, rfl⟩
    refine ⟨a, _, ⟨as, hi, hr, rfl⟩, ?_⟩
    rw [hl]
    rfl

theorem repeatCounted_ok :
    repeatCounted s c = .ok (s', d) ↔ ∃ a as min max c₁ greedy, s.level.items = a :: as ∧
      a.isRepeatable = true ∧ Bounds s.verbose (c.advanceSkip s.verbose) min max c₁ ∧
      (∀ m ∈ max, min ≤ m) ∧ lazyMark (c₁.advanceSkip s.verbose) = (greedy, d) ∧
      s' = s.replace as (.repetition ⟨a.span.start, d.pos⟩ min max greedy a) := by
  have ends (max : Option Nat) (min : Nat) :
      ¬ max.any (fun m => decide (m < min)) = true ↔ ∀ m ∈ max, min ≤ m := by
    cases max <;> simp
  unfold repeatCounted
  simp only [↓fail_bind, guard_ok, bind_ok, Prod.exists, repeated_ok, Cursor.atEnd_iff]
  generalize hc : c.advanceSkip s.verbose = c₀
  generalize h₁ : decimal s.verbose c₀ = x
  obtain ⟨first, c₁⟩ := x
  dsimp only
  constructor
  · rintro ⟨a, _, ⟨as, hi, hr, rfl⟩, -, -, h⟩
    split at h
    · next hcomma =>
      simp only [guard_ok] at h
      obtain ⟨-, h⟩ := h
      split at h
      · next hb =>
        simp only [bind_ok, pure_bind, guard_ok, ends] at h
        obtain ⟨n, rfl, -, hm, h⟩ := h
        cases h
        exact ⟨a, as, n, none, _, _, hi, hr, .atLeast h₁ hcomma hb, hm, rfl, rfl⟩
      · next hb =>
        generalize h₂ : decimal s.verbose (c₁.advanceSkip s.verbose) = x at h
        obtain ⟨second, c₂⟩ := x
        simp only [bind_ok, pure_bind, guard_ok, ends, bne_iff_ne, ne_eq, Decidable.not_not] at h
        obtain ⟨n, rfl, m, rfl, hp, hm, h⟩ := h
        cases h
        exact ⟨a, as, n, some m, _, _, hi, hr, .between h₁ hcomma hb h₂ hp, hm, rfl, rfl⟩
    · simp only [bind_ok, pure_bind, guard_ok, ends, bne_iff_ne, ne_eq, Decidable.not_not] at h
      obtain ⟨n, rfl, hp, hm, h⟩ := h
      cases h
      exact ⟨a, as, n, some n, _, _, hi, hr, .exact h₁ hp, hm, rfl, rfl⟩
  · rintro ⟨a, as, min, max, c₂, greedy, hi, hr, hb, hm, hl, rfl⟩
    have rest {c : Cursor} {x : Char} (h : c.peek = some x) : c.rest ≠ [] := by
      rw [ne_eq, ← Cursor.peek_eq_none, h]
      exact Option.some_ne_none x
    have before {c d : Cursor} (h : d.rest ≠ []) (hs : d.rest <:+ c.rest) : c.rest ≠ [] := by
      intro hc
      rw [hc, List.suffix_nil] at hs
      exact h hs
    refine ⟨a, _, ⟨as, hi, hr, rfl⟩, before (rest hb.peek) hb.suffix, ?_⟩
    cases hb with
    | exact hd hp =>
      cases h₁.symm.trans hd
      refine ⟨rest hp, ?_⟩
      rw [if_neg (by rw [hp]; decide)]
      simp only [bind_ok, pure_bind, guard_ok, ends, bne_iff_ne, ne_eq, Decidable.not_not]
      exact ⟨min, rfl, hp, hm, by rw [hl]; rfl⟩
    | atLeast hd hcomma hp =>
      cases h₁.symm.trans hd
      refine ⟨rest hcomma, ?_⟩
      rw [if_pos hcomma]
      simp only [pure_bind, guard_ok, bne_iff_ne, ne_eq]
      rw [if_pos hp]
      simp only [bind_ok, guard_ok, ends, Decidable.not_not]
      exact ⟨rest hp, min, rfl, hp, hm, by rw [hl]; rfl⟩
    | between hd hcomma hn hd₂ hp =>
      cases h₁.symm.trans hd
      refine ⟨rest hcomma, ?_⟩
      rw [if_pos hcomma]
      simp only [pure_bind, guard_ok, bne_iff_ne, ne_eq]
      rw [if_neg hn, hd₂]
      simp only [bind_ok, guard_ok, ends, Decidable.not_not]
      refine ⟨before (rest hp) (decimal_suffix hd₂), min, rfl, _, rfl, hp, hm, by rw [hl]; rfl⟩

theorem step_symbol (h : isSymbol ch = true) : step s ch c = Symbol.read s.verbose ch c >>=
    fun x => .ok ({ s with level := s.level.push x.1.toAst }, x.2) := by
  unfold step
  split <;> first | cases h | rfl

/-- The steps are those of the reader. -/
theorem step_ok (hc : c.peek = some ch) : step s ch c = .ok (s', d) ↔ Steps s c s' d := by
  constructor
  · intro h
    by_cases hs : isSymbol ch = true
    · rw [step_symbol hs] at h
      obtain ⟨⟨x, e⟩, hx, h⟩ := bind_ok.1 h
      cases h
      exact .symbol hc hs hx
    · unfold step at h
      split at h
      · obtain ⟨⟨head, n, e⟩, ho, h⟩ := bind_ok.1 h
        cases head with
        | setFlags span setting => cases h; exact .flags hc ho
        | opened span kind => cases h; exact .enter hc ho
      · unfold closeGroup at h
        split at h
        · cases h
        · next g gs hg => cases h; exact .leave hc hg
      · cases h; exact .bar hc
      · obtain ⟨⟨a, e⟩, ha, h⟩ := bind_ok.1 h
        cases h
        exact .cls hc ha
      · obtain ⟨a, as, greedy, hi, hr, hl, rfl⟩ := repeatPlain_ok.1 h
        exact .plain hc rfl hi hr hl
      · obtain ⟨a, as, greedy, hi, hr, hl, rfl⟩ := repeatPlain_ok.1 h
        exact .plain hc rfl hi hr hl
      · obtain ⟨a, as, greedy, hi, hr, hl, rfl⟩ := repeatPlain_ok.1 h
        exact .plain hc rfl hi hr hl
      · obtain ⟨a, as, min, max, c₁, greedy, hi, hr, hb, hm, hl, rfl⟩ := repeatCounted_ok.1 h
        exact .counted hc hi hr hb hm hl
      · next h₁ h₂ h₃ h₄ h₅ h₆ h₇ h₈ =>
        refine absurd ?_ hs
        simp only [isSymbol, Bool.not_eq_true', List.contains_eq_mem, decide_eq_false_iff_not]
        intro hm
        have : ch ∈ ['(', ')', '|', '[', '?', '*', '+', '\x7b'] := hm
        simp only [List.mem_cons, List.not_mem_nil, or_false] at this
        exact this.elim h₁ (·.elim h₂ (·.elim h₃ (·.elim h₄ (·.elim h₅ (·.elim h₆
          (·.elim h₇ h₈))))))
  · intro h
    -- The character decides which branch of the reader is taken.
    cases h with
    | flags hp ho =>
      cases hc.symm.trans hp
      simp only [step, openGroup, ho]
      rfl
    | enter hp ho =>
      cases hc.symm.trans hp
      simp only [step, openGroup, ho]
      rfl
    | leave hp hg =>
      cases hc.symm.trans hp
      simp only [step, closeGroup, hg]
      rfl
    | bar hp => cases hc.symm.trans hp; rfl
    | cls hp ha =>
      cases hc.symm.trans hp
      simp only [step, ha]
      rfl
    | plain hp hk hi hr hl =>
      cases hc.symm.trans hp
      unfold plainOf at hk
      split at hk <;> cases hk <;> exact repeatPlain_ok.2 ⟨_, _, _, hi, hr, hl, rfl⟩
    | counted hp hi hr hb hm hl =>
      cases hc.symm.trans hp
      exact repeatCounted_ok.2 ⟨_, _, _, _, _, _, hi, hr, hb, hm, hl, rfl⟩
    | symbol hp hs hx =>
      cases hc.symm.trans hp
      rw [step_symbol hs, hx]
      rfl

namespace Steps

theorem peek (h : Steps s c s' d) : ∃ x, c.peek = some x := by
  cases h <;> exact ⟨_, by assumption⟩

/-- A step passes the next character at least. -/
theorem suffix (h : Steps s c s' d) : d.rest <:+ c.advance.rest := by
  cases h with
  | flags _ ho => exact Group.readOpen_suffix ho
  | enter _ ho => exact Group.readOpen_suffix ho
  | leave => exact List.suffix_refl _
  | bar => exact List.suffix_refl _
  | cls hp ha =>
    obtain ⟨x, hx, hd⟩ := Bracketed.read_suffix ha
    rwa [Cursor.skip_of_peek hp (by decide) (by decide)] at hd
  | plain _ _ _ _ hl => exact lazyMark_suffix hl
  | counted _ _ _ hb _ hl =>
    exact (lazyMark_suffix hl).trans ((Cursor.advanceSkip_suffix _ _).trans
      (hb.suffix.trans (Cursor.advanceSkip_suffix_advance _ _)))
  | symbol _ _ hx => exact Symbol.read_suffix hx

/-- A closing round bracket closes the innermost group. -/
theorem of_close (h : Steps s c s' d) (hc : c.peek = some ')') :
    ∃ g gs, s.groups = g :: gs ∧ s' = s.leave g gs c ∧ d = c.advance := by
  cases h with
  | leave _ hg => exact ⟨_, _, hg, rfl, rfl⟩
  | plain hp hk => cases hc.symm.trans hp; cases hk
  | symbol hp hs => cases hc.symm.trans hp; cases hs
  | flags hp | enter hp | bar hp | cls hp | counted hp => cases hc.symm.trans hp

end Steps

/-! ## The groups further out -/

/-- The same state inside further groups. -/
def State.under (s : State) (gs : List Open) : State := { s with groups := s.groups ++ gs }

/-- A step does not see the groups further out. -/
theorem Steps.under (h : Steps s c s' d) (gs : List Open) :
    Steps (s.under gs) c (s'.under gs) d := by
  cases h with
  | flags hp ho => exact .flags hp ho
  | enter hp ho => exact .enter (s := s.under gs) hp ho
  | @leave g fs hp hg =>
    have hg' : (s.under gs).groups = g :: (fs ++ gs) := by rw [State.under, hg]; rfl
    exact .leave hp hg'
  | bar hp => exact .bar (s := s.under gs) hp
  | cls hp ha => exact .cls (s := s.under gs) hp ha
  | plain hp hk hi hr hl => exact .plain (s := s.under gs) hp hk hi hr hl
  | counted hp hi hr hb hm hl => exact .counted (s := s.under gs) hp hi hr hb hm hl
  | symbol hp hs hx => exact .symbol (s := s.under gs) hp hs hx

/-- A step inside further groups is one without them, or it closes one of them. -/
theorem Steps.of_under {gs : List Open} (h : Steps (s.under gs) c s' d) :
    (∃ s₁, s' = s₁.under gs ∧ Steps s c s₁ d) ∨ (s.groups = [] ∧ c.peek = some ')') := by
  cases h with
  | flags hp ho => exact .inl ⟨_, rfl, .flags hp ho⟩
  | enter hp ho => exact .inl ⟨_, rfl, .enter hp ho⟩
  | leave hp hg =>
    cases hs : s.groups with
    | nil => exact .inr ⟨rfl, hp⟩
    | cons g fs =>
      rw [State.under, hs, List.cons_append, List.cons.injEq] at hg
      obtain ⟨rfl, rfl⟩ := hg
      exact .inl ⟨_, rfl, .leave hp hs⟩
  | bar hp => exact .inl ⟨_, rfl, .bar hp⟩
  | cls hp ha => exact .inl ⟨_, rfl, .cls hp ha⟩
  | plain hp hk hi hr hl => exact .inl ⟨_, rfl, .plain hp hk hi hr hl⟩
  | counted hp hi hr hb hm hl => exact .inl ⟨_, rfl, .counted hp hi hr hb hm hl⟩
  | symbol hp hs hx => exact .inl ⟨_, rfl, .symbol hp hs hx⟩

/-! ## Levels and states without places -/

def Level.bare (l : Level) : List Ast × List Ast := (l.branches.map Ast.bare, l.items.map Ast.bare)

def Open.bare (g : Open) : GroupKind × (List Ast × List Ast) × Bool :=
  (g.kind.bare, g.outer.bare, g.verbose)

def State.bare (s : State) : Bool × List (GroupKind × (List Ast × List Ast) × Bool) ×
    (List Ast × List Ast) :=
  (s.verbose, s.groups.map Open.bare, s.level.bare)

namespace Level

variable {l l' : Level}

theorem push_bare (h : l'.bare = l.bare) {a a' : Ast} (ha : a'.bare = a.bare) :
    (l'.push a').bare = (l.push a).bare := by
  simp only [bare, Prod.mk.injEq] at h
  simp only [bare, push, List.map_cons, ha, h.1, h.2]

theorem branch_bare (h : l'.bare = l.bare) (p p' : Nat) :
    (l'.branch p').bare = (l.branch p).bare := by
  obtain ⟨_, _, _, is⟩ := l
  obtain ⟨_, _, _, is'⟩ := l'
  simp only [bare, Prod.mk.injEq] at h
  rcases UrlMask.Span.cases_of_map_eq h.2 with
    ⟨rfl, rfl⟩ | ⟨a, a', rfl, rfl, ha⟩ | ⟨a, b, r, a', b', r', rfl, rfl⟩
  · simp [branch, Ast.bare]
  · simpa [branch] using ha
  · simp only [branch, Ast.bare, List.map_reverse, h.2]

theorem nextBranch_bare (h : l'.bare = l.bare) (p p' : Nat) :
    (l'.nextBranch p').bare = (l.nextBranch p).bare := by
  have hb := branch_bare h p p'
  simp only [bare, Prod.mk.injEq] at h
  simp only [bare, nextBranch, List.map_cons, hb, h.1, List.map_nil]

theorem toAst_bare (h : l'.bare = l.bare) (p p' : Nat) : (l'.toAst p').bare = (l.toAst p).bare := by
  have hb := branch_bare h p p'
  obtain ⟨_, bs, _, is⟩ := l
  obtain ⟨_, bs', _, is'⟩ := l'
  simp only [bare, Prod.mk.injEq] at h
  match bs, bs', h.1 with
  | [], [], _ => simpa [toAst] using hb
  | _ :: _, _ :: _, h => simp only [toAst, Ast.bare, List.map_reverse, List.map_cons, hb, h]
  | [], _ :: _, h => cases h
  | _ :: _, [], h => cases h

end Level

/-! ## Steps before other ends -/

/-- The same state, read at another place. The names in `b` and in `b'` were taken before. -/
def State.Same (b b' : List String) (s s' : State) : Prop :=
  s'.bare = s.bare ∧ ∃ l, s.names.texts = l ++ b ∧ s'.names.texts = l ++ b'

section Same

variable {b b' : List String} {s s₁ s' : State} {c c' d : Cursor} {t t' : List Char}

theorem State.Same.verbose (h : s.Same b b' s') : s'.verbose = s.verbose :=
  congrArg Prod.fst h.1

theorem State.Same.groups (h : s.Same b b' s') : s'.groups.map Open.bare = s.groups.map Open.bare :=
  congrArg (·.2.1) h.1

theorem State.Same.groups_nil (h : s.Same b b' s') (hg : s.groups = []) : s'.groups = [] := by
  have := h.groups
  rwa [hg, List.map_nil, List.map_eq_nil_iff] at this

theorem State.Same.level (h : s.Same b b' s') : s'.level.bare = s.level.bare :=
  congrArg (·.2.2) h.1

/-- What was taken before comes after the names that a reading from the start takes. -/
theorem State.Same.names_of_nil (h : s.Same [] b' s') : s'.names.texts = s.names.texts ++ b' := by
  obtain ⟨l, hl, hl'⟩ := h.2
  rw [hl', hl, List.append_nil]

theorem State.Same.of_level (h : s.Same b b' s') {l l' : Level} (hl : l'.bare = l.bare) :
    State.Same b b' { s with level := l } { s' with level := l' } :=
  ⟨by simp only [State.bare, h.verbose, h.groups, hl], h.2⟩

/-- The last items are the same. -/
theorem State.Same.items (h : s.Same b b' s') {a : Ast} {as : List Ast}
    (hi : s.level.items = a :: as) : ∃ a' as', s'.level.items = a' :: as' ∧ a'.bare = a.bare ∧
      as'.map Ast.bare = as.map Ast.bare := by
  have hl := congrArg Prod.snd h.level
  simp only [Level.bare, hi, List.map_cons] at hl
  exact List.map_eq_cons_iff.1 hl |>.imp fun a' ⟨as', h₁, h₂, h₃⟩ => ⟨as', h₁, h₂, h₃⟩

theorem State.Same.replace (h : s.Same b b' s') {as as' : List Ast} {a a' : Ast}
    (has : as'.map Ast.bare = as.map Ast.bare) (ha : a'.bare = a.bare) :
    (s.replace as a).Same b b' (s'.replace as' a') := by
  refine h.of_level ?_
  have hl := congrArg Prod.fst h.level
  simp only [Level.bare] at hl
  simp only [Level.bare, List.map_cons, has, ha, hl]

theorem verboseIn_bare (kind : GroupKind) : verboseIn kind.bare = verboseIn kind := by
  cases kind <;> rfl

theorem State.Same.enter (h : s.Same b b' s') {kind kind' : GroupKind}
    (hk : kind'.bare = kind.bare) (span span' : Span) (p p' : Nat) (n n' : Group.Names) :
    (s'.enter span' kind' n' p').bare = (s.enter span kind n p).bare := by
  have hv : verboseIn kind' = verboseIn kind := by
    rw [← verboseIn_bare kind', hk, verboseIn_bare]
  simp only [State.bare, State.enter, hv, h.verbose, List.map_cons, h.groups, Open.bare, hk,
    h.level]
  rfl

/-- The innermost group is the same. -/
theorem State.Same.leave (h : s.Same b b' s') {g : Open} {gs : List Open} (hg : s.groups = g :: gs)
    (c c' : Cursor) : ∃ g' gs', s'.groups = g' :: gs' ∧
      (s.leave g gs c).Same b b' (s'.leave g' gs' c') := by
  have hgs := h.groups
  rw [hg, List.map_cons] at hgs
  obtain ⟨g', gs', hg', hb, hgs⟩ := List.map_eq_cons_iff.1 hgs
  simp only [Open.bare, Prod.mk.injEq] at hb
  obtain ⟨hk, ho, hv⟩ := hb
  refine ⟨g', gs', hg', ?_, h.2⟩
  have hnode : (Ast.group ⟨g'.span.start, c'.advance.pos⟩ g'.kind (s'.level.toAst c'.pos)).bare =
      (Ast.group ⟨g.span.start, c.advance.pos⟩ g.kind (s.level.toAst c.pos)).bare := by
    simp only [Ast.bare, hk, Level.toAst_bare h.level c.pos c'.pos]
  simp only [State.bare, State.leave, hv, hgs, Level.push_bare ho hnode]

/-- A name that is new in `s` is not among the names that were taken before in `s'`. -/
theorem State.Same.free (h : s.Same b b' s') {head : Group.Head} {n : Group.Names}
    (ho : Group.readOpen s.verbose s.names c = .ok (head, n, d))
    (hn : ∀ name ∈ n.texts, name ∈ b' → name ∈ b) :
    ∀ name ∈ head.names, name ∉ s'.names.texts := by
  obtain ⟨l, h₁, h₂⟩ := h.2
  obtain ⟨h₃, h₄⟩ := Group.readOpen_texts ho
  intro name hname
  have hl := h₄ name hname
  rw [h₁, List.mem_append, not_or] at hl
  rw [h₂, List.mem_append, not_or]
  exact ⟨hl.1, fun h => hl.2 (hn name (by rw [h₃]; exact List.mem_append_left _ hname) h)⟩

theorem State.Same.texts (h : s.Same b b' s') {head : Group.Head} {n n' : Group.Names}
    (ho : Group.readOpen s.verbose s.names c = .ok (head, n, d))
    (hn' : n'.texts = head.names ++ s'.names.texts) :
    ∃ l, n.texts = l ++ b ∧ n'.texts = l ++ b' := by
  obtain ⟨l, h₁, h₂⟩ := h.2
  refine ⟨head.names ++ l, ?_, ?_⟩
  · rw [(Group.readOpen_texts ho).1, h₁, List.append_assoc]
  · rw [hn', h₂, List.append_assoc]

/-- A step is the same before other ends, if the names that it takes are free there. After `\b` a
brace has to be followed by more before the end. -/
theorem Steps.swap (e : Ends s.verbose t t') (hs : Swap t t' c c') (h : Steps s c s₁ d)
    (ht : t <:+ d.rest) (same : s.Same b b' s')
    (hn : ∀ name ∈ s₁.names.texts, name ∈ b' → name ∈ b)
    (hbrace : d.peek = some '\x7b' → ∀ y, (d.advanceSkip s₁.verbose).peek = some y →
      t <:+ (d.advanceSkip s₁.verbose).advance.rest) :
    ∃ s₁' d', Steps s' c' s₁' d' ∧ s₁.Same b b' s₁' ∧ Swap t t' d d' := by
  have hta := ht.trans h.suffix
  have hv := same.verbose
  cases h with
  | @flags span setting n d hp ho =>
    obtain ⟨head, m, d', ho', hb, hm, hd⟩ := Group.readOpen_swap e hs hp ho ht (same.free ho hn)
    cases head with
    | opened => cases hb
    | setFlags span' setting' =>
      simp only [Group.Head.bare, Group.Head.setFlags.injEq, true_and] at hb
      subst hb
      have hf : (Ast.flags span' setting').bare = (Ast.flags span setting').bare := by
        simp only [Ast.bare]
      refine ⟨_, d', .flags (hs.peek hp hta) (hv ▸ ho'), ⟨?_, same.texts ho hm⟩, hd⟩
      simp only [State.bare, hv, same.groups, Level.push_bare same.level hf]
  | enter hp ho =>
    obtain ⟨head, m, d', ho', hb, hm, hd⟩ := Group.readOpen_swap e hs hp ho ht (same.free ho hn)
    cases head with
    | setFlags => cases hb
    | opened span' kind' =>
      simp only [Group.Head.bare, Group.Head.opened.injEq, true_and] at hb
      exact ⟨_, d', .enter (hs.peek hp hta) (hv ▸ ho'),
        ⟨same.enter hb _ _ _ _ _ _, same.texts ho hm⟩, hd⟩
  | leave hp hg =>
    obtain ⟨g', gs', hg', hsame⟩ := same.leave hg c c'
    exact ⟨_, _, .leave (hs.peek hp hta) hg', hsame, hs.advance hp hta⟩
  | bar hp =>
    exact ⟨_, _, .bar (hs.peek hp hta), same.of_level (Level.nextBranch_bare same.level _ _),
      hs.advance hp hta⟩
  | cls hp ha =>
    obtain ⟨a', d', ha', hb, hd⟩ := Bracketed.read_swap e hs ha ht
    exact ⟨_, d', .cls (hs.peek hp hta) (hv ▸ ha'),
      same.of_level (Level.push_bare same.level hb), hd⟩
  | plain hp hk hi hr hl =>
    obtain ⟨a', as', hi', ha, has⟩ := same.items hi
    obtain ⟨d', hl', hd⟩ := lazyMark_swap e (hs.advance hp hta) hl ht
    refine ⟨_, d', .plain (hs.peek hp hta) hk hi' ?_ hl', same.replace has ?_, hd⟩
    · rw [← Ast.isRepeatable_bare, ha, Ast.isRepeatable_bare, hr]
    · simp only [Ast.bare, ha]
  | @counted min max c₁ a as d greedy hp hi hr hb hm hl =>
    obtain ⟨a', as', hi', ha, has⟩ := same.items hi
    have ht₁ := ht.trans (lazyMark_suffix hl)
    have ht₂ := ht₁.trans (Cursor.advanceSkip_suffix_advance _ _)
    obtain ⟨hp', hs₀⟩ := hs.advanceSkip e hp ((ht₂.trans c₁.advance_suffix).trans hb.suffix)
    obtain ⟨c₁', hb', hs₁⟩ := hb.swap e hs₀ ht₂
    obtain ⟨d', hl', hd⟩ := lazyMark_swap e (hs₁.advanceSkip e hb.peek ht₁).2 hl ht
    rw [← hv] at hb' hl'
    refine ⟨_, d', .counted hp' hi' ?_ hb' hm hl', same.replace has ?_, hd⟩
    · rw [← Ast.isRepeatable_bare, ha, Ast.isRepeatable_bare, hr]
    · simp only [Ast.bare, ha]
  | symbol hp hsy hx =>
    obtain ⟨x', d', hx', hb, hd⟩ := Symbol.read_swap e hs hp hx ht fun _ _ => hbrace
    exact ⟨_, d', .symbol (hs.peek hp hta) hsy (hv ▸ hx'),
      same.of_level (Level.push_bare same.level (by simp only [Symbol.toAst_bare, hb])), hd⟩

end Same

end Parser

end UrlMask.Regex
