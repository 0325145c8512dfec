import UrlMask.Proofs.Regex.Run

/-!
# The heads of the groups of a tree

What the reader keeps in its state beside the tree, the verbose flag and the names that are taken,
it has read in the heads of groups. All of these are in the tree when the text ends.

* `Ast.heads`: the heads of all groups of a tree, and the flags set without a group.
* `Ast.mem_groupNames`: the names of the capture groups are those of the heads.
* `Parser.Steps.heads`: a step adds the head of the group that it opens.
* `Parser.Reaches.traced`: the verbose flag and the names come from heads that were read.
* `Parser.ReadsAs.mem_groupNames`: the names of a tree are those that the reader has taken.
-/
namespace UrlMask.Regex

/-- The heads of all groups. Flags set without a group count as the head of one. -/
def Ast.heads : Ast → List GroupKind
  | .flags _ s => [.plain s]
  | .repetition _ _ _ _ body => body.heads
  | .group _ kind body => kind :: body.heads
  | .alternation _ branches => list branches
  | .concat _ items => list items
  | _ => []
where
  list : List Ast → List GroupKind
    | [] => []
    | a :: as => a.heads ++ list as

/-- Whether one of the heads turns the verbose flag on. -/
def TurnsVerbose (heads : List GroupKind) : Prop :=
  ∃ setting, GroupKind.plain setting ∈ heads ∧ (Flag.verbose, true) ∈ setting

theorem TurnsVerbose.mono {l l' : List GroupKind} (h : TurnsVerbose l) (hs : l ⊆ l') :
    TurnsVerbose l' := by
  obtain ⟨setting, hm, hv⟩ := h
  exact ⟨setting, hs hm, hv⟩

theorem Ast.list_eq_flatMap (as : List Ast) : heads.list as = as.flatMap heads := by
  induction as with
  | nil => rfl
  | cons a as ih => rw [heads.list, ih, List.flatMap_cons]

mutual

theorem Ast.mem_groupNames (n : String) : (a : Ast) →
    (n ∈ a.groupNames.map (·.2) ↔ ∃ i, .capture i (some n) ∈ a.heads)
  | .empty _ | .literal _ | .dot _ | .assertion _ _ | .property _ | .shorthand _
  | .bracketed _ _ _ => by simp [groupNames, heads]
  | .flags _ _ => by simp [groupNames, heads]
  | .repetition _ _ _ _ body => by
    simp only [groupNames, heads]
    exact Ast.mem_groupNames n body
  | .group _ (.capture i none) body => by
    simp only [groupNames, heads, Ast.mem_groupNames n body, List.mem_cons, GroupKind.capture.injEq,
      reduceCtorEq, and_false, false_or]
  | .group _ (.capture i (some m)) body => by
    simp only [groupNames, heads, List.map_cons, List.mem_cons, Ast.mem_groupNames n body,
      GroupKind.capture.injEq, Option.some.injEq]
    constructor
    · rintro (rfl | ⟨j, hj⟩)
      · exact ⟨i, .inl ⟨rfl, rfl⟩⟩
      · exact ⟨j, .inr hj⟩
    · rintro ⟨j, ⟨-, rfl⟩ | hj⟩
      · exact .inl rfl
      · exact .inr ⟨j, hj⟩
  | .group _ (.plain _) body => by
    simp only [groupNames, heads, Ast.mem_groupNames n body, List.mem_cons, reduceCtorEq, false_or]
  | .alternation _ branches => by
    simp only [groupNames, heads]
    exact Ast.mem_groupNames_list n branches
  | .concat _ items => by
    simp only [groupNames, heads]
    exact Ast.mem_groupNames_list n items

theorem Ast.mem_groupNames_list (n : String) : (as : List Ast) →
    (n ∈ (groupNames.list as).map (·.2) ↔ ∃ i, .capture i (some n) ∈ heads.list as)
  | [] => by simp [groupNames.list, heads.list]
  | a :: as => by
    simp only [groupNames.list, heads.list, List.map_append, List.mem_append,
      Ast.mem_groupNames n a, Ast.mem_groupNames_list n as]
    constructor
    · rintro (⟨i, h⟩ | ⟨i, h⟩)
      · exact ⟨i, .inl h⟩
      · exact ⟨i, .inr h⟩
    · rintro ⟨i, h | h⟩
      · exact .inl ⟨i, h⟩
      · exact .inr ⟨i, h⟩

end

namespace Parser

/-! ## Heads in levels and states -/

def Level.heads (l : Level) : List GroupKind := (l.branches ++ l.items).flatMap Ast.heads

def Open.heads (g : Open) : List GroupKind := g.kind :: g.outer.heads

def State.heads (s : State) : List GroupKind := s.level.heads ++ s.groups.flatMap Open.heads

namespace Level

variable {k : GroupKind} {l : Level}

theorem mem_heads : k ∈ l.heads ↔ (∃ a ∈ l.branches, k ∈ a.heads) ∨ ∃ a ∈ l.items, k ∈ a.heads := by
  simp only [heads, List.mem_flatMap, List.mem_append, or_and_right, exists_or]

theorem heads_push (l : Level) (a : Ast) : k ∈ (l.push a).heads ↔ k ∈ a.heads ∨ k ∈ l.heads := by
  simp only [mem_heads, push, List.mem_cons, exists_eq_or_imp]
  constructor
  · rintro (h | h | h)
    · exact .inr (.inl h)
    · exact .inl h
    · exact .inr (.inr h)
  · rintro (h | h | h)
    · exact .inr (.inl h)
    · exact .inl h
    · exact .inr (.inr h)

theorem heads_branch (l : Level) (p : Nat) :
    k ∈ (l.branch p).heads ↔ ∃ a ∈ l.items, k ∈ a.heads := by
  obtain ⟨_, _, _, _ | ⟨a, _ | ⟨b, is⟩⟩⟩ := l
  · simp [branch, Ast.heads]
  · simp [branch]
  · simp only [branch, Ast.heads, Ast.list_eq_flatMap, List.mem_flatMap, List.mem_reverse]

theorem heads_nextBranch (l : Level) (p : Nat) : k ∈ (l.nextBranch p).heads ↔ k ∈ l.heads := by
  simp only [mem_heads, nextBranch, List.mem_cons, exists_eq_or_imp, heads_branch, List.not_mem_nil,
    false_and, exists_false, or_false]
  exact or_comm

theorem heads_toAst (l : Level) (p : Nat) : k ∈ (l.toAst p).heads ↔ k ∈ l.heads := by
  have hb := heads_branch (k := k) l p
  obtain ⟨_, bs, _, is⟩ := l
  match bs with
  | [] => simpa [toAst, mem_heads] using hb
  | b :: bs =>
    simp only [toAst, Ast.heads, Ast.list_eq_flatMap, List.mem_flatMap, List.mem_reverse,
      List.mem_cons, exists_eq_or_imp, hb, mem_heads]
    exact or_comm

end Level

theorem State.mem_heads {s : State} {k : GroupKind} : k ∈ s.heads ↔
    k ∈ s.level.heads ∨ ∃ g ∈ s.groups, k = g.kind ∨ k ∈ g.outer.heads := by
  simp only [heads, List.mem_append, List.mem_flatMap, Open.heads, List.mem_cons]

variable {s s' s₁ : State} {c c₁ d : Cursor}

theorem State.heads_of_level {l : Level} {new : List GroupKind}
    (h : ∀ k, k ∈ l.heads ↔ k ∈ new ∨ k ∈ s.level.heads) (k : GroupKind) :
    k ∈ State.heads { s with level := l } ↔ k ∈ new ∨ k ∈ s.heads := by
  simp only [State.mem_heads, h, or_assoc]

theorem State.heads_push (s : State) {a : Ast} (ha : a.heads = []) (k : GroupKind) :
    k ∈ (s.push a).heads ↔ k ∈ [] ∨ k ∈ s.heads :=
  State.heads_of_level (fun k => by rw [Level.heads_push, ha]) k

theorem State.heads_replace {a b : Ast} {as : List Ast} (hi : s.level.items = a :: as)
    (hb : b.heads = a.heads) (k : GroupKind) :
    k ∈ (s.replace as b).heads ↔ k ∈ [] ∨ k ∈ s.heads := by
  refine State.heads_of_level (fun k => ?_) k
  simp only [Level.mem_heads, hi, List.mem_cons, exists_eq_or_imp, hb, List.not_mem_nil, false_or]

/-- A step adds the head of the group that it opens, and loses none. -/
theorem Steps.heads (h : Steps s c s' d) : ∃ new : List GroupKind,
    (∀ k, k ∈ s'.heads ↔ k ∈ new ∨ k ∈ s.heads) ∧
      ∀ i n, .capture i (some n) ∈ new → n ∈ s'.names.texts := by
  cases h with
  | @flags span setting n _ _ _ =>
    refine ⟨[.plain setting], fun k => ?_, by simp⟩
    simp only [State.mem_heads, Level.heads_push, Ast.heads, or_assoc]
  | @enter span kind n _ _ ho =>
    refine ⟨[kind], fun k => ?_, fun i name hk => ?_⟩
    · simp only [State.mem_heads, State.enter, Level.begin', Level.mem_heads, List.mem_cons,
        exists_eq_or_imp, List.not_mem_nil, false_and, exists_false, or_false, false_or, or_assoc]
    · cases List.mem_singleton.1 hk
      simp only [State.enter, (Group.readOpen_texts ho).1]
      exact List.mem_append_left _ (List.mem_singleton.2 rfl)
  | leave _ hg =>
    refine ⟨[], fun k => ?_, by simp⟩
    simp only [State.mem_heads, State.leave, Level.heads_push, Ast.heads, List.mem_cons,
      Level.heads_toAst, hg, exists_eq_or_imp, List.not_mem_nil, false_or, or_assoc, or_left_comm]
  | bar =>
    refine ⟨[], State.heads_of_level fun k => ?_, by simp⟩
    simp only [Level.heads_nextBranch, List.not_mem_nil, false_or]
  | cls _ ha =>
    obtain ⟨span, negated, body, rfl⟩ := Bracketed.run_bracketed ha
    exact ⟨[], s.heads_push (by simp only [Ast.heads]), by simp⟩
  | plain _ _ hi => exact ⟨[], State.heads_replace hi (by simp only [Ast.heads]), by simp⟩
  | counted _ hi => exact ⟨[], State.heads_replace hi (by simp only [Ast.heads]), by simp⟩
  | @symbol _ x =>
    refine ⟨[], s.heads_push ?_, by simp⟩
    cases x <;> simp only [Symbol.toAst, Ast.heads]

theorem Steps.heads_subset (h : Steps s c s' d) : s.heads ⊆ s'.heads := by
  obtain ⟨new, hs, -⟩ := h.heads
  exact fun k hk => (hs k).2 (.inr hk)

theorem Reaches.heads_subset (h : Reaches s c s₁ c₁) : s.heads ⊆ s₁.heads := by
  induction h with
  | refl => exact List.Subset.refl _
  | step h _ ih => exact List.Subset.trans h.heads_subset ih

/-! ## What the state keeps beside the tree -/

/-- The verbose flag, that of the groups that are open, and the names come from heads, and the names
are those of all heads. -/
structure State.Traced (s : State) : Prop where
  verbose : s.verbose = true → TurnsVerbose s.heads
  outer : ∀ g ∈ s.groups, g.verbose = true → TurnsVerbose s.heads
  names : ∀ n ∈ s.names.texts, ∃ i, .capture i (some n) ∈ s.heads
  taken : ∀ i n, .capture i (some n) ∈ s.heads → n ∈ s.names.texts

theorem State.Traced.init : State.init.Traced := ⟨nofun, nofun, nofun, nofun⟩

theorem mem_of_verboseOf {setting : FlagSetting} {b : Bool} (h : verboseOf setting = some b) :
    (Flag.verbose, b) ∈ setting := by
  obtain ⟨⟨f, b'⟩, hf, rfl⟩ := Option.map_eq_some_iff.1 h
  have hp := List.find?_some hf
  cases (beq_iff_eq.1 hp : f = Flag.verbose)
  exact List.mem_of_find?_eq_some hf

/-- A head that turns the flag on, or the flag from before. -/
theorem turnsVerbose_of_getD {l : List GroupKind} {setting : FlagSetting} {b : Bool}
    (hm : GroupKind.plain setting ∈ l) (hb : b = true → TurnsVerbose l)
    (h : (verboseOf setting).getD b = true) : TurnsVerbose l := by
  cases hv : verboseOf setting with
  | none => rw [hv] at h; exact hb h
  | some b' =>
    rw [hv] at h
    cases (h : b' = true)
    exact ⟨setting, hm, mem_of_verboseOf hv⟩

theorem Steps.taken (h : Steps s c s' d) (ht : s.Traced) (i : Nat) (n : String)
    (hk : .capture i (some n) ∈ s'.heads) : n ∈ s'.names.texts := by
  obtain ⟨new, hs, hnew⟩ := h.heads
  rcases (hs _).1 hk with hk | hk
  · exact hnew i n hk
  · exact h.texts (ht.taken i n hk)

theorem Steps.traced (h : Steps s c s' d) (ht : s.Traced) : s'.Traced := by
  have hs := h.heads_subset
  have htaken := h.taken ht
  have hv (h : s.verbose = true) : TurnsVerbose s'.heads := (ht.verbose h).mono hs
  have ho (g) (hg : g ∈ s.groups) (h : g.verbose = true) := (ht.outer g hg h).mono hs
  have hn (n) (h : n ∈ s.names.texts) : ∃ i, .capture i (some n) ∈ s'.heads :=
    (ht.names n h).imp fun _ hi => hs hi
  cases h with
  | @flags span setting n d _ hopen =>
    refine ⟨turnsVerbose_of_getD (State.mem_heads.2 (.inl ?_)) hv, ho, fun name h => hn name ?_,
      htaken⟩
    · rw [Level.heads_push, Ast.heads]
      exact .inl (List.mem_singleton.2 rfl)
    · rwa [(Group.readOpen_texts hopen).1] at h
  | @enter span kind n d _ hopen =>
    have hk : kind ∈ (s.enter span kind n d.pos).heads :=
      State.mem_heads.2 (.inr ⟨_, List.mem_cons_self .., .inl rfl⟩)
    refine ⟨fun h => ?_, List.forall_mem_cons.2 ⟨hv, ho⟩, fun name h => ?_, htaken⟩
    · cases kind with
      | plain setting => exact turnsVerbose_of_getD hk hv h
      | capture => exact hv h
    · simp only [State.enter, (Group.readOpen_texts hopen).1, List.mem_append] at h
      refine h.elim (fun h => ?_) (hn name)
      cases kind with
      | plain => cases h
      | capture i name? =>
        cases name? with
        | none => cases h
        | some m =>
          cases List.mem_singleton.1 h
          exact ⟨i, hk⟩
  | leave _ hg =>
    rw [hg, List.forall_mem_cons] at ho
    exact ⟨ho.1, ho.2, hn, htaken⟩
  | bar | cls | plain | counted | symbol => exact ⟨hv, ho, hn, htaken⟩

/-- The verbose flag and the names of a state that is reached come from heads that were read. -/
theorem Reaches.traced (h : Reaches s c s₁ c₁) (ht : s.Traced) : s₁.Traced := by
  induction h with
  | refl => exact ht
  | step h _ ih => exact ih (h.traced ht)

/-- Where no head turns the verbose flag on, no state on the way is verbose. -/
theorem State.Traced.quiet (ht : s.Traced) (h : ¬ TurnsVerbose s₁.heads) : Quiet s c s₁ c₁ := by
  intro s₂ c₂ h₁ h₂
  cases hv : s₂.verbose with
  | false => rfl
  | true => exact absurd (((h₁.traced ht).verbose hv).mono h₂.heads_subset) h

/-- What is read last is in the tree. -/
theorem ReadsAs.mem_heads {text : List Char} {ast : Ast} (h : ReadsAs text s ast) {k : GroupKind} :
    k ∈ ast.heads ↔ k ∈ s.heads := by
  obtain ⟨c, -, -, hg, rfl⟩ := h
  rw [Level.heads_toAst, State.mem_heads, hg]
  simp

/-- The names of a tree are those that the reader has taken. -/
theorem ReadsAs.mem_groupNames {text : List Char} {ast : Ast} (h : ReadsAs text s ast)
    {n : String} : n ∈ ast.groupNames.map (·.2) ↔ n ∈ s.names.texts := by
  obtain ⟨c, hr, -⟩ := id h
  have ht := hr.traced .init
  simp only [Ast.mem_groupNames, h.mem_heads]
  exact ⟨fun ⟨i, hi⟩ => ht.taken i n hi, ht.names n⟩

end Parser

end UrlMask.Regex
