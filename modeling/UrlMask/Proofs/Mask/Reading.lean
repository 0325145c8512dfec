import UrlMask.Proofs.Mask.Literal
import UrlMask.Proofs.Mask.Pieces
import UrlMask.Proofs.Regex.Heads

/-!
# How the source of a mask is read

The source of a mask is read piece by piece: `^`, the characters of the literal text, a group for
each section, `$`. What a section holds is read in its group as it is read alone, as long as the
section is a regex of its own and no comment at its end runs on.

* `Top.reads_escape`: literal text is read as a row of characters.
* `Section`: the tree of a section, and the names that it takes.
* `Section.reads`: a section in its group.
* `Section.of_reads`: what is read in the group of a section.
* `Layout.Tree`, `Layout.Tree.reads`: the tree of a layout.
-/
namespace UrlMask

open Regex Regex.Parser

/-- The reader is outside all groups. It has read the items, of which the latest comes first, and
there were no bars between them. -/
structure Top (items : List Ast) (names : List String) (s : State) : Prop where
  verbose : s.verbose = false
  groups : s.groups = []
  branches : s.level.branches = []
  items : s.level.items.map Ast.bare = items
  names : s.names.texts = names

variable {s s' s₁ s₂ : State} {c c' c₁ c₂ : Cursor} {items : List Ast} {names : List String}

theorem Top.init : Top [] [] .init := ⟨rfl, rfl, rfl, rfl, rfl⟩

theorem Top.skip (h : Top items names s) (c : Cursor) : c.skip s.verbose = c := by
  rw [h.verbose]
  rfl

theorem Top.push (h : Top items names s) (a : Ast) : Top (a.bare :: items) names (s.push a) :=
  ⟨h.verbose, h.groups, h.branches, by simp only [State.push, Level.push, List.map_cons, h.items],
    h.names⟩

/-- A symbol is read. -/
theorem Top.symbol (h : Top items names s) {ch : Char} {x : Symbol} (hc : c.peek = some ch)
    (hs : isSymbol ch = true) (hx : Symbol.read false ch c = .ok (x, c')) :
    Reaches s c (s.push x.toAst) c' := by
  refine .one ?_
  rw [h.skip]
  exact .symbol hc hs (by rwa [h.verbose])

/-! ## Literal text -/

/-- Literal text is read as a row of characters. -/
theorem Top.reads_escape (l r : List Char) (h : Top items names s)
    (hc : c.rest = Layout.escape l ++ r) : ∃ s' c', Reaches s c s' c' ∧ c'.rest = r ∧
      Top ((l.map Layout.charTree).reverse ++ items) names s' := by
  induction l generalizing s c items with
  | nil => exact ⟨s, c, .refl, hc, h⟩
  | cons ch l ih =>
    obtain ⟨p, _⟩ := c
    simp only [Layout.escape, List.flatMap_cons, List.append_assoc] at hc
    subst hc
    obtain ⟨x, sym, d, hp, hs, hx, hd, ha⟩ := read_escapeChar ch p (Layout.escape l ++ r)
    obtain ⟨s', c', hr, hc', ht⟩ := ih (h.push sym.toAst) hd
    refine ⟨s', c', (h.symbol hp hs hx).trans hr, hc', ?_⟩
    rw [ha] at ht
    simpa using ht

/-! ## Sections -/

/-- What is read in round brackets: the text up to the closing bracket, as the tree `a` without
places, with these names. -/
def Section (u : List Char) (a : Ast) (names : List String) : Prop :=
  ∃ s, ReadsTo u [')'] s ∧ a = (s.level.toAst 0).bare ∧ names = s.names.texts

/-- The tree of the group of a section. -/
def sectionTree (a : Ast) : Ast := .group .none (.plain []) a

/-- The state in which a section begins, when the group is not seen. -/
def State.inner (s : State) (pos : Nat) : State := ⟨false, [], .begin' pos, s.names⟩

theorem same_init : State.init.Same [] [] .init := ⟨rfl, [], rfl, rfl⟩

theorem same_inner (s : State) (pos : Nat) :
    State.init.Same [] s.names.texts (State.inner s pos) :=
  ⟨rfl, [], rfl, rfl⟩

/-- The group of a section opens. -/
theorem Top.opens (h : Top items names s) {r : List Char} (hc : c.rest = Layout.groupOpen ++ r) :
    ∃ g c', Reaches s c ((State.inner s c'.pos).under [g]) c' ∧ c'.rest = r ∧
      g.kind = .plain [] ∧ g.outer = s.level ∧ g.verbose = false := by
  obtain ⟨p, _⟩ := c
  subst hc
  have ho : Group.readOpen false s.names ⟨p, Layout.groupOpen ++ r⟩ =
      .ok (.opened ⟨p, p + 1⟩ (.plain []), s.names, ⟨p + 3, r⟩) := rfl
  refine ⟨⟨⟨p, p + 1⟩, .plain [], s.level, s.verbose⟩, ⟨p + 3, r⟩, .one ?_, rfl, rfl, rfl,
    h.verbose⟩
  have hst : (State.inner s (p + 3)).under [⟨⟨p, p + 1⟩, .plain [], s.level, s.verbose⟩] =
      s.enter ⟨p, p + 1⟩ (.plain []) s.names (p + 3) := by
    simp only [State.under, State.inner, State.enter, h.groups, h.verbose]
    rfl
  rw [hst, h.skip]
  exact .enter (d := ⟨p + 3, r⟩) rfl (by rwa [h.verbose])

/-- The group of a section closes. -/
theorem Top.closes (h : Top items names s) {g : Open} (hk : g.kind = .plain [])
    (ho : g.outer = s.level) (hv : g.verbose = false) (s₁ : State) (c : Cursor) :
    Top (sectionTree (s₁.level.toAst 0).bare :: items) s₁.names.texts (s₁.back g [] c) where
  verbose := hv
  groups := rfl
  branches := by rw [State.back, State.leave, ho]; exact h.branches
  items := by
    have hb := Level.toAst_bare (l := s₁.level) rfl 0 c.pos
    simp only [State.back, State.leave, State.under, ho, hk, Level.push, List.map_cons, h.items,
      Ast.bare, hb, sectionTree, GroupKind.bare]
  names := rfl

/-- A section is read in its group as it is read alone. -/
theorem Section.reads {u r : List Char} {a : Ast} {new : List String} (hu : Section u a new)
    (h : Top items names s) (hn : ∀ n ∈ new, n ∉ names)
    (hc : c.rest = Layout.groupOpen ++ (u ++ ')' :: r)) : ∃ s' c', Reaches s c s' c' ∧ c'.rest = r ∧
      Top (sectionTree a :: items) (new ++ names) s' := by
  obtain ⟨s₁, hu, rfl, rfl⟩ := hu
  obtain ⟨g, c₁, hopen, hc₁, hk, ho, hv⟩ := h.opens hc
  have left : ∀ x ∈ [')'].head?, x = ')' := by simp
  have right : ∀ x ∈ (')' :: r).head?, x = ')' := by simp
  rw [← h.names] at hn
  obtain ⟨s₂, c₂, hr, same, hg, hend⟩ := hu.swap hc₁ (same_inner s c₁.pos) left right nofun hn
  have hp : (c₂.skip s₂.verbose).peek = some ')' := by rw [Cursor.peek, hend]; rfl
  have hback : Reaches (s₂.under [g]) c₂ (s₂.back g [] (c₂.skip s₂.verbose))
      (c₂.skip s₂.verbose).advance := by
    refine .one (.leave hp ?_)
    rw [State.under, hg]
    rfl
  have hrest := Cursor.peek_eq_some.1 hp
  rw [hend, List.cons.injEq] at hrest
  have t := h.closes hk ho hv s₂ (c₂.skip s₂.verbose)
  rw [Level.toAst_bare same.level 0 0, same.names_of_nil, h.names] at t
  exact ⟨_, _, hopen.trans ((hr.under [g]).trans hback), hrest.2.symm, t⟩

/-- A run from inside a group to its closing bracket is one of a section. -/
theorem Section.of_inner {u v : List Char} {pos : Nat} (hr : Reaches (State.inner s pos) c s₁ c₁)
    (hg : s₁.groups = []) (hend : (c₁.skip s₁.verbose).rest = ')' :: v)
    (hc : c.rest = u ++ ')' :: v) (hn : s.names.texts.Nodup) :
    ∃ new, Section u (s₁.level.toAst 0).bare new ∧ s₁.names.texts = new ++ s.names.texts ∧
      ∀ n ∈ new, n ∉ s.names.texts := by
  have same : (State.inner s pos).Same s.names.texts [] .init := ⟨rfl, [], rfl, rfl⟩
  have hs : Swap (')' :: v) [')'] c ⟨0, u ++ [')']⟩ := ⟨u, hc, rfl⟩
  obtain ⟨s₃, c₃, h₃, same, hend'⟩ := hr.swap hend hs same (by simp) (by simp) nofun nofun
  obtain ⟨l, hl, hl'⟩ := same.2
  have hnd := hr.nodup hn
  rw [hl, List.nodup_append] at hnd
  have hsec : Section u (s₁.level.toAst 0).bare l :=
    ⟨s₃, ⟨c₃, h₃, hend', same.groups_nil hg⟩, (Level.toAst_bare same.level 0 0).symm,
      by rw [hl', List.append_nil]⟩
  exact ⟨l, hsec, hl, fun n h h' => hnd.2.2 n h n h' rfl⟩

/-- What is read in the group of a section, when the group is closed in the end. -/
theorem Section.of_reads {r : List Char} (h : Top items names s) (hnd : names.Nodup)
    (hc : c.rest = Layout.groupOpen ++ r) (hr : Reaches s c s₂ c₂) (hst : Stuck s₂ c₂)
    (hg : s₂.groups = []) : ∃ u v a new s' c', r = u ++ ')' :: v ∧ Section u a new ∧
      (∀ n ∈ new, n ∉ names) ∧ Reaches s' c' s₂ c₂ ∧ c'.rest = v ∧
      Top (sectionTree a :: items) (new ++ names) s' := by
  obtain ⟨g, c₁, hopen, hc₁, hk, ho, hv⟩ := h.opens hc
  obtain ⟨s₃, c₃, h₃, hg₃, hp, hrest⟩ := (hopen.confluent hr hst).closes (by simp [hg])
  have hend := Cursor.peek_eq_some.1 hp
  obtain ⟨u, hu⟩ := ((c₃.skip_suffix s₃.verbose).trans h₃.suffix)
  rw [hend, hc₁] at hu
  obtain ⟨new, hs, hn, hfree⟩ := Section.of_inner h₃ hg₃ hend (hc₁.trans hu.symm)
    (h.names ▸ hnd)
  rw [h.names] at hn hfree
  have t := h.closes hk ho hv s₃ (c₃.skip s₃.verbose)
  rw [hn] at t
  exact ⟨u, _, _, new, _, _, hu.symm, hs, hfree, hrest, rfl, t⟩

/-- A section before a closing round bracket, alone. -/
theorem Section.stuck {u : List Char} {a : Ast} {new : List String} (hu : Section u a new)
    (v : List Char) : ∃ s c, Reaches .init ⟨0, u ++ ')' :: v⟩ s c ∧ Stuck s c ∧
      (c.skip s.verbose).rest = ')' :: v ∧ s.groups = [] ∧ (s.level.toAst 0).bare = a ∧
      s.names.texts = new := by
  obtain ⟨s₁, hu, rfl, rfl⟩ := hu
  have hc : (⟨0, u ++ ')' :: v⟩ : Cursor).rest = u ++ ')' :: v := rfl
  obtain ⟨s₂, c₂, hr, same, hg, hend⟩ := hu.swap hc same_init (by simp) (by simp) nofun nofun
  exact ⟨s₂, c₂, hr, stuck_of_close hg (by rw [Cursor.peek, hend]; rfl), hend, hg,
    Level.toAst_bare same.level 0 0, same.names_of_nil.trans (List.append_nil _)⟩

/-- Where a section ends is seen from the text. -/
theorem Section.unique {u u' v v' : List Char} {a a' : Ast} {new new' : List String}
    (h : Section u a new) (h' : Section u' a' new') (ht : u ++ ')' :: v = u' ++ ')' :: v') :
    u = u' ∧ v = v' ∧ a = a' ∧ new = new' := by
  obtain ⟨s, c, hr, hs, hend, -, ha, hn⟩ := h.stuck v
  obtain ⟨s', c', hr', hs', hend', -, ha', hn'⟩ := h'.stuck v'
  rw [ht] at hr
  obtain ⟨rfl, rfl⟩ := hr.unique hs hr' hs'
  rw [hend, List.cons.injEq] at hend'
  obtain ⟨-, rfl⟩ := hend'
  exact ⟨List.append_cancel_right ht, rfl, ha.symm.trans ha', hn.symm.trans hn'⟩

/-- A section is read alone. -/
theorem Section.alone {u : List Char} {a : Ast} {new : List String} (h : Section u a new) :
    ∃ s ast, ReadsAs u s ast ∧ ast.bare = a ∧ s.names.texts = new := by
  obtain ⟨s₁, hu, rfl, rfl⟩ := h
  have hc : (⟨0, u⟩ : Cursor).rest = u ++ [] := (List.append_nil u).symm
  obtain ⟨s₂, c₂, hr, same, hg, hend⟩ := hu.swap hc same_init (by simp) nofun nofun nofun
  exact ⟨s₂, _, ⟨c₂, hr, hend, hg, rfl⟩, Level.toAst_bare same.level 0 _,
    same.names_of_nil.trans (List.append_nil _)⟩

/-- A regex that never turns the verbose flag on can be a section. -/
theorem Section.of_quiet {u : List Char} {ast : Ast} (h : ReadsAs u s ast)
    (hv : ¬ TurnsVerbose ast.heads) : Section u ast.bare s.names.texts := by
  have hs : ¬ TurnsVerbose s.heads := fun hs => hv (hs.mono fun _ hk => h.mem_heads.2 hk)
  obtain ⟨c, hr, hend, hg, rfl⟩ := h
  have hsw : Swap [] [')'] ⟨0, u⟩ ⟨0, u ++ [')']⟩ := ⟨u, (List.append_nil u).symm, rfl⟩
  obtain ⟨s₂, c₂, hr₂, same, hend₂⟩ := hr.swap hend hsw same_init nofun
    (by simp) (fun _ _ => State.Traced.init.quiet hs) nofun
  exact ⟨s₂, ⟨c₂, hr₂, hend₂, same.groups_nil hg⟩, (Level.toAst_bare same.level _ 0).symm,
    (same.names_of_nil.trans (List.append_nil _)).symm⟩

/-- A section takes no name twice. -/
theorem Section.nodup {u : List Char} {a : Ast} {new : List String} (h : Section u a new) :
    new.Nodup := by
  obtain ⟨s, ⟨c, hr, -⟩, -, rfl⟩ := h
  exact hr.nodup .nil

/-- After a section a closing round bracket is one too many. -/
theorem Section.not_ofText {u : List Char} {a : Ast} {new : List String} (h : Section u a new)
    (v : List Char) (ast : Ast) : Ast.ofText (u ++ ')' :: v) ≠ .ok ast := by
  intro ha
  obtain ⟨s, c, hr, hend, -⟩ := Ast.ofText_ok.1 ha
  obtain ⟨s', c', hr', hst, hend', -⟩ := h.stuck v
  obtain ⟨rfl, rfl⟩ := hr.unique (stuck_of_end hend) hr' hst
  rw [hend] at hend'
  cases hend'

/-- A text that is a regex, in round brackets too, can be a section. -/
theorem Section.of_ofText {u : List Char} {ast ast' : Ast} (h : Ast.ofText u = .ok ast)
    (h' : Ast.ofText (Layout.groupOpen ++ (u ++ [')'])) = .ok ast') :
    ∃ new, Section u ast.bare new := by
  obtain ⟨s, c, hr, hend, hg, -⟩ := Ast.ofText_ok.1 h'
  obtain ⟨u', v, a, new, -, -, hu, hs, -⟩ := Section.of_reads .init .nil rfl hr
    (stuck_of_end hend) hg
  -- The bracket that closes the group is the last one, or `u` would not be a regex.
  rcases List.eq_nil_or_concat v with rfl | ⟨w, x, rfl⟩
  · cases List.append_cancel_right hu
    obtain ⟨s₂, ast₂, hs₂, rfl, -⟩ := hs.alone
    cases h.symm.trans (Ast.ofText_ok.2 ⟨s₂, hs₂⟩)
    exact ⟨_, hs⟩
  · rw [List.concat_eq_append, ← List.cons_append, ← List.append_assoc] at hu
    obtain ⟨rfl, -⟩ := List.append_inj' hu rfl
    exact absurd h (hs.not_ofText w ast)

/-! ## Both ends of a source -/

def startTree : Ast := .assertion .none .startLine

def endTree : Ast := .assertion .none .endLine

/-- The source begins with `^`. -/
theorem Top.reads_start {r : List Char} : ∃ s c, Reaches .init ⟨0, '^' :: r⟩ s c ∧ c.rest = r ∧
    Top [startTree] [] s := by
  have hx : Symbol.read false '^' ⟨0, '^' :: r⟩ =
      .ok (.assertion ⟨0, 1⟩ .startLine, ⟨1, r⟩) := rfl
  refine ⟨_, _, Top.init.symbol rfl (by decide) hx, rfl, ?_⟩
  have := Top.init.push (Symbol.assertion ⟨0, 1⟩ .startLine).toAst
  simpa [Symbol.toAst, Ast.bare, startTree] using this

/-- The source ends with `$`. -/
theorem Top.reads_end (h : Top items names s) (hc : c.rest = ['$']) :
    ∃ s' c', Reaches s c s' c' ∧ c'.rest = [] ∧ Top (endTree :: items) names s' := by
  obtain ⟨p, _⟩ := c
  subst hc
  have hx : Symbol.read false '$' ⟨p, ['$']⟩ = .ok (.assertion ⟨p, p + 1⟩ .endLine, ⟨p + 1, []⟩) :=
    rfl
  refine ⟨_, _, h.symbol rfl (by decide) hx, rfl, ?_⟩
  have := h.push (Symbol.assertion ⟨p, p + 1⟩ .endLine).toAst
  simpa [Symbol.toAst, Ast.bare, endTree] using this

/-- What is read outside all groups is a sequence. -/
theorem Top.toAst (h : Top items names s) (hl : 2 ≤ items.length) (p : Nat) :
    (s.level.toAst p).bare = .concat .none items.reverse := by
  have hi := h.items
  have hb := h.branches
  obtain ⟨_, _, ⟨_, bs, _, is⟩, _⟩ := s
  simp only at hi hb
  subst hi hb
  match is with
  | [] => simp at hl
  | [_] => simp at hl
  | a :: b :: is => simp only [Level.toAst, Level.branch, Ast.bare, List.map_reverse]

/-! ## Layouts -/

namespace Layout

/-- The items that a layout is read as, and the names that they take, the latest first. -/
inductive Tree : Layout → List Ast → List String → Prop
  | literal {l} : Tree (.literal l) (l.map charTree) []
  | section' {l u rest a new as names} : Section u a new → Tree rest as names →
    Tree (.section' l u rest) (l.map charTree ++ sectionTree a :: as) (names ++ new)

/-- A layout of sections has items. -/
theorem Tree.of_sections {lay : Layout} (hcl : lay.Closed)
    (hs : ∀ u ∈ lay.sections, ∃ a new, Section u a new) : ∃ as new, lay.Tree as new := by
  induction lay with
  | literal => exact ⟨_, _, .literal⟩
  | unclosed => exact hcl.elim
  | section' l u rest ih =>
    obtain ⟨⟨a, new, hu⟩, hrest⟩ := List.forall_mem_cons.1 hs
    obtain ⟨as, names, ht⟩ := ih hcl hrest
    exact ⟨_, _, .section' hu ht⟩

/-- A layout is read as its items. -/
theorem Tree.reads {lay : Layout} {as : List Ast} {new : List String} (hl : lay.Tree as new)
    {r : List Char} (h : Top items names s) (hn : (new ++ names).Nodup)
    (hc : c.rest = lay.body ++ r) : ∃ s' c', Reaches s c s' c' ∧ c'.rest = r ∧
      Top (as.reverse ++ items) (new ++ names) s' := by
  induction hl generalizing s c items names with
  | literal => exact h.reads_escape _ r hc
  | @section' l u rest a new as names' hu _ ih =>
    simp only [body, List.append_assoc] at hc
    obtain ⟨s₁, c₁, h₁, hc₁, t₁⟩ := h.reads_escape l _ hc
    rw [List.append_assoc, List.nodup_append] at hn
    obtain ⟨s₂, c₂, h₂, hc₂, t₂⟩ := hu.reads t₁
      (fun n h h' => (List.nodup_append.1 hn.2.1).2.2 n h n h' rfl) (r := rest.body ++ r)
      (by simpa using hc₁)
    obtain ⟨s₃, c₃, h₃, hc₃, t₃⟩ := ih t₂ (List.nodup_append.2 hn) hc₂
    refine ⟨s₃, c₃, h₁.trans (h₂.trans h₃), hc₃, ?_⟩
    simpa using t₃

/-- Where the sections are regexes of their own, a layout that is read has a tree. -/
theorem Tree.of_reads {lay : Layout} (hcl : lay.Closed)
    (hs : ∀ u ∈ lay.sections, ∃ a new, Section u a new) {r : List Char}
    (h : Top items names s) (hnd : names.Nodup) (hc : c.rest = lay.body ++ r)
    (hr : Reaches s c s₂ c₂) (hst : Stuck s₂ c₂) (hg : s₂.groups = []) :
    ∃ as new, lay.Tree as new ∧ (new ++ names).Nodup := by
  induction lay generalizing s c items names with
  | literal l => exact ⟨_, [], .literal, hnd⟩
  | unclosed => exact hcl.elim
  | section' l u rest ih =>
    obtain ⟨a, new, hu⟩ := hs u (List.mem_cons_self ..)
    simp only [body, List.append_assoc] at hc
    obtain ⟨s₁, c₁, h₁, hc₁, t₁⟩ := h.reads_escape l _ hc
    obtain ⟨u', v, a', new', s₃, c₃, ht, hu', hfree, h₃, hc₃, t₃⟩ :=
      Section.of_reads t₁ hnd hc₁ (h₁.confluent hr hst) hst hg
    rw [List.cons_append] at ht
    obtain ⟨rfl, rfl, rfl, rfl⟩ := hu.unique hu' ht
    have hnd' : (new ++ names).Nodup :=
      List.nodup_append.2 ⟨hu.nodup, hnd, fun n h n' h' e => hfree n h (e ▸ h')⟩
    obtain ⟨as, new₂, hl, hn⟩ :=
      ih hcl (fun u hu => hs u (List.mem_cons_of_mem _ hu)) t₃ hnd' hc₃ h₃
    exact ⟨_, new₂ ++ new, .section' hu hl, by rwa [List.append_assoc]⟩

/-- The source of a layout is read as a sequence of its items. -/
theorem Tree.ofText_source {lay : Layout} {as : List Ast} {new : List String} (hl : lay.Tree as new)
    (hn : new.Nodup) : ∃ ast, Ast.ofText lay.source = .ok ast ∧
      ast.bare = .concat .none (startTree :: (as ++ [endTree])) := by
  obtain ⟨s₁, c₁, h₁, hc₁, t₁⟩ := Top.reads_start (r := lay.body ++ ['$'])
  obtain ⟨s₂, c₂, h₂, hc₂, t₂⟩ := hl.reads t₁ (by simpa using hn) hc₁
  obtain ⟨s₃, c₃, h₃, hc₃, t₃⟩ := t₂.reads_end hc₂
  have hskip := t₃.skip c₃
  refine ⟨_, Ast.ofText_ok.2 ⟨s₃, c₃, h₁.trans (h₂.trans h₃), ?_, t₃.groups, rfl⟩, ?_⟩
  · rw [hskip, hc₃]
  · rw [t₃.toAst (by simp)]
    simp

end Layout

end UrlMask
