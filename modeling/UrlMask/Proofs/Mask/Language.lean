import UrlMask.Proofs.Mask.Meaning

/-!
# The texts that a mask accepts

A mask cuts the texts that it accepts into its literal text and spans that its sections describe
where they stand. This holds of each mask whose sections are regexes of their own, as long as no
comment at the end of one runs on and no name is given twice.

* `Layout.Cuts`: how a layout cuts a text.
* `Layout.Regular`: what is asked of the sections.
* `Layout.Tree.describes`: the items of a layout describe the texts that it cuts.
* `Mask.accepts_iff_cuts`: a mask is refused for a limit only, or accepts what its layout cuts.
-/
namespace UrlMask

open Regex Regex.Parser

namespace Layout

/-! ## Cuts -/

/-- The text is a regex, which means `r` where no flag is set. -/
def Means (u : List Char) (r : Regex) : Prop :=
  ∃ ast f, Ast.ofText u = .ok ast ∧ ast.meaning .init = .ok (r, f)

/-- `lay.Cuts b w`: after `b` and before the end, `w` is the literal text of the layout and, in
the place of each section, a span that the section describes there. -/
inductive Cuts : Layout → List Char → List Char → Prop
  | literal {l b} : Cuts (.literal l) b l
  | section' {l u rest r b v w} : Means u r → Matches r (b ++ l) v w → Cuts rest (b ++ l ++ v) w →
    Cuts (.section' l u rest) b (l ++ (v ++ w))

theorem Means.unique {u : List Char} {r r' : Regex} (h : Means u r) (h' : Means u r') : r = r' := by
  obtain ⟨ast, f, ha, hm⟩ := h
  obtain ⟨ast', f', ha', hm'⟩ := h'
  cases ha.symm.trans ha'
  cases hm.symm.trans hm'
  rfl

theorem cuts_section {l u : List Char} {rest : Layout} {r : Regex} (hr : Means u r)
    {b w : List Char} : (section' l u rest).Cuts b w ↔ ∃ v w', w = l ++ (v ++ w') ∧
      Matches r (b ++ l) v w' ∧ rest.Cuts (b ++ l ++ v) w' := by
  constructor
  · intro h
    cases h with
    | section' hr' hv hw =>
      cases hr.unique hr'
      exact ⟨_, _, rfl, hv, hw⟩
  · rintro ⟨v, w', rfl, hv, hw⟩
    exact .section' hr hv hw

/-! ## What the items of a layout describe -/

variable {u : List Char} {a : Ast} {new : List String}

/-- A section means what its tree means. -/
theorem Means.tree {r : Regex} (h : Means u r) (hu : Section u a new) :
    ∃ f, a.meaning .init = .ok (r.bare, f) := by
  obtain ⟨ast, f, ha, hm⟩ := h
  obtain ⟨s, ast', hs, rfl, -⟩ := hu.alone
  cases ha.symm.trans (Ast.ofText_ok.2 ⟨s, hs⟩)
  exact ⟨f, Ast.meaning_bare_ok.2 ⟨r, hm, rfl⟩⟩

theorem Means.of_tree {r' : Regex} {f : Flags} (hu : Section u a new)
    (h : a.meaning .init = .ok (r', f)) : ∃ r, Means u r := by
  obtain ⟨s, ast, hs, rfl, -⟩ := hu.alone
  obtain ⟨r, hm, -⟩ := Ast.meaning_bare_ok.1 h
  exact ⟨r, ast, f, Ast.ofText_ok.2 ⟨s, hs⟩, hm⟩

/-- Where the items of a layout mean something, so does each section. -/
theorem Tree.means {lay : Layout} {as : List Ast} (h : lay.Tree as new) {r : Regex} {f : Flags}
    (hm : Ast.meaning.meaningSeq .init (as ++ [endTree]) = .ok (r, f)) :
    ∀ u ∈ lay.sections, ∃ r, Means u r := by
  induction h generalizing r f with
  | literal => nofun
  | section' hu _ ih =>
    rw [List.append_assoc, meaning_literal (by simp), List.cons_append,
      meaning_section (by simp)] at hm
    simp only [bind_ok, Prod.exists] at hm
    obtain ⟨_, _, ⟨_, _, ha, _, _, hrest, -⟩, -⟩ := hm
    exact List.forall_mem_cons.2 ⟨Means.of_tree hu ha, ih hrest⟩

/-- The items of a layout describe the texts that it cuts. -/
theorem Tree.describes {lay : Layout} {as : List Ast} (h : lay.Tree as new)
    (hm : ∀ u ∈ lay.sections, ∃ r, Means u r) :
    ∃ r, Ast.meaning.meaningSeq .init (as ++ [endTree]) = .ok (r, .init) ∧
      ∀ b w a, Matches r b w a ↔ a = [] ∧ lay.Cuts b w := by
  induction h with
  | @literal l =>
    refine ⟨prefixed l (.look .endText), ?_, fun b w a => ?_⟩
    · rw [meaning_literal (by simp), meaning_end]
      rfl
    · simp only [matches_literal, matches_end]
      constructor
      · rintro ⟨v, rfl, rfl, rfl⟩
        rw [List.append_nil]
        exact ⟨rfl, .literal⟩
      · rintro ⟨rfl, h⟩
        cases h
        exact ⟨[], (List.append_nil _).symm, rfl, rfl⟩
  | @section' l u rest a new as names hu _ ih =>
    obtain ⟨⟨r, hr⟩, hrest⟩ := List.forall_mem_cons.1 hm
    obtain ⟨s, hs, hcuts⟩ := ih hrest
    obtain ⟨f, ha⟩ := hr.tree hu
    refine ⟨prefixed l (.seq (.group none r.bare) s), ?_, fun b w a => ?_⟩
    · rw [List.append_assoc, meaning_literal (by simp), List.cons_append,
        meaning_section (by simp), ha, hs]
      rfl
    · simp only [matches_literal, matches_section, matches_bare, hcuts, cuts_section hr]
      constructor
      · rintro ⟨_, rfl, v, w', rfl, hv, rfl, hw⟩
        rw [List.append_nil] at hv
        exact ⟨rfl, v, w', rfl, hv, hw⟩
      · rintro ⟨rfl, v, w', rfl, hv, hw⟩
        exact ⟨_, rfl, v, w', rfl, by rwa [List.append_nil], rfl, hw⟩

/-! ## Names -/

/-- The names of the capture groups of a text, if it is a regex. -/
def captureNames (u : List Char) : List String :=
  match Ast.ofText u with
  | .ok ast => ast.groupNames.map (·.2)
  | .error _ => []

/-- No name is given in both texts. -/
def Apart (u v : List Char) : Prop := ∀ n ∈ captureNames u, n ∉ captureNames v

theorem mem_captureNames {s : State} {ast : Ast} (h : ReadsAs u s ast) {n : String} :
    n ∈ captureNames u ↔ n ∈ s.names.texts := by
  rw [← h.mem_groupNames, captureNames, Ast.ofText_ok.2 ⟨s, h⟩]

/-- A layout takes the names of its sections. -/
theorem Tree.mem_names {lay : Layout} {as : List Ast} (h : lay.Tree as new) {n : String} :
    n ∈ new ↔ ∃ u ∈ lay.sections, n ∈ captureNames u := by
  induction h with
  | literal => simp [sections]
  | section' hu _ ih =>
    obtain ⟨s, ast, hs, -, rfl⟩ := hu.alone
    simp only [List.mem_append, ih, sections, List.mem_cons, exists_eq_or_imp, mem_captureNames hs]
    exact or_comm

/-- No name is taken twice if no two sections share one. -/
theorem Tree.nodup_iff {lay : Layout} {as : List Ast} (h : lay.Tree as new) :
    new.Nodup ↔ lay.sections.Pairwise Apart := by
  induction h with
  | literal => simp [sections]
  | section' hu hrest ih =>
    have hnd := hu.nodup
    obtain ⟨s, ast, hs, -, rfl⟩ := hu.alone
    rw [List.nodup_append, ih, sections, List.pairwise_cons]
    simp only [Apart, mem_captureNames hs, hrest.mem_names]
    constructor
    · rintro ⟨hr, -, hne⟩
      exact ⟨fun v hv n hn hn' => hne n ⟨v, hv, hn'⟩ n hn rfl, hr⟩
    · rintro ⟨hapart, hr⟩
      refine ⟨hr, hnd, ?_⟩
      rintro n ⟨v, hv, hn⟩ _ hn' rfl
      exact hapart v hv n hn' hn

/-! ## Sections that are regexes of their own -/

/-- The text is accepted as a regex, and it never turns the verbose flag on. -/
def Plain (u : List Char) : Prop :=
  ∃ p r f, Parsed.ofText u = .ok p ∧ p.ast.meaning .init = .ok (r, f) ∧ ¬ TurnsVerbose p.ast.heads

/-- Every section is closed and a regex of its own, and no two share a name. -/
structure Regular (lay : Layout) : Prop where
  closed : lay.Closed
  plain : ∀ u ∈ lay.sections, Plain u
  apart : lay.sections.Pairwise Apart

theorem Plain.means (h : Plain u) : ∃ r, Means u r := by
  obtain ⟨p, r, f, hp, hm, -⟩ := h
  exact ⟨r, p.ast, f, (Parsed.ofText_ok.1 hp).1, hm⟩

theorem Plain.reads (h : Plain u) : ∃ a new, Section u a new := by
  obtain ⟨p, r, f, hp, -, hv⟩ := h
  obtain ⟨s, hs⟩ := Ast.ofText_ok.1 (Parsed.ofText_ok.1 hp).1
  exact ⟨_, _, Section.of_quiet hs hv⟩

/-- A regular layout is read as its items. -/
theorem Regular.reads {lay : Layout} (h : lay.Regular) :
    ∃ as new, lay.Tree as new ∧ new.Nodup := by
  obtain ⟨as, new, ht⟩ := Tree.of_sections h.closed fun u hu => (h.plain u hu).reads
  exact ⟨as, new, ht, ht.nodup_iff.2 h.apart⟩

end Layout

/-! ## Masks -/

namespace Mask

variable {text : List Char} {template : Template} {limit : Nat} {as : List Ast} {new : List String}

/-- A mask whose sections mean something is refused for a limit only. -/
theorem isLimit_of_tree (hb : Text.trim text ≠ [])
    (ht : (Layout.ofText (Text.trim text)).Tree as new) (hn : new.Nodup)
    (hm : ∀ u ∈ (Layout.ofText (Text.trim text)).sections, ∃ r, Layout.Means u r) {e : Fault}
    (he : ofText text template limit = .error e) : e.IsLimit text limit := by
  obtain ⟨ast, ha, hbare⟩ := ht.ofText_source hn
  obtain ⟨r, hr, -⟩ := ht.describes hm
  obtain ⟨r', hr'⟩ := Layout.meaning_source hbare (by simp) hr
  exact ofText_error hb ha hr' he

/-- A mask accepts what its layout cuts, and every section of it means something. -/
theorem cuts_of_tree {m : Mask} (hok : ofText text template limit = .ok m)
    (ht : (Layout.ofText (Text.trim text)).Tree as new) (hn : new.Nodup) :
    (∀ u ∈ (Layout.ofText (Text.trim text)).sections, ∃ r, Layout.Means u r) ∧
      ∀ url, m.accepts url = true ↔ (Layout.ofText (Text.trim text)).Cuts [] url := by
  obtain ⟨ast, ha, hbare⟩ := ht.ofText_source hn
  obtain ⟨r, f, hr, hacc⟩ := accepts_iff hok ha hbare (by simp)
  have hm := ht.means hr
  obtain ⟨r', hr', hcuts⟩ := ht.describes hm
  cases hr.symm.trans hr'
  refine ⟨hm, fun url => ?_⟩
  simp only [hacc, hcuts]
  constructor
  · rintro ⟨w, _, rfl, rfl, hw⟩
    rwa [List.append_nil]
  · intro h
    exact ⟨url, [], List.append_nil _, rfl, h⟩

/-- A mask with a regular layout is refused for a limit only, and accepts the texts that can be
cut into its literal texts and spans that its sections describe in place. -/
theorem accepts_iff_cuts (template : Template) (limit : Nat) (hb : Text.trim text ≠ [])
    (hr : (Layout.ofText (Text.trim text)).Regular) :
    (∀ e, ofText text template limit = .error e → e.IsLimit text limit) ∧
      ∀ m, ofText text template limit = .ok m →
        ∀ url, m.accepts url = true ↔ (Layout.ofText (Text.trim text)).Cuts [] url := by
  obtain ⟨as, new, ht, hn⟩ := hr.reads
  exact ⟨fun e => isLimit_of_tree hb ht hn fun u hu => (hr.plain u hu).means,
    fun m hok => (cuts_of_tree hok ht hn).2⟩

/-- A mask with a section of two branches is accepted, and its language is that of its layout. -/
theorem accepts_iff_cuts_of_branches : ∃ m, ofText "a[b|cd]e".toList [] defaultLimit = .ok m ∧
    ∀ url, m.accepts url = true ↔ (Layout.ofText "a[b|cd]e".toList).Cuts [] url := by
  have hok : (ofText "a[b|cd]e".toList [] defaultLimit).toOption.any (fun _ => true) = true := by
    decide +kernel
  obtain ⟨m, hm, -⟩ := exists_ok_of_any hok
  have hl : Layout.ofText (Text.trim "a[b|cd]e".toList) =
      .section' ['a'] ['b', '|', 'c', 'd'] (.literal ['e']) := by decide
  have hr : (Layout.ofText (Text.trim "a[b|cd]e".toList)).Regular := by
    rw [hl]
    refine ⟨trivial, List.forall_mem_singleton.2 ⟨_, _, _, rfl, rfl, ?_⟩,
      List.pairwise_singleton _ _⟩
    rintro ⟨setting, hm, -⟩
    cases (hm : GroupKind.plain setting ∈ [])
  exact ⟨m, hm, (accepts_iff_cuts [] defaultLimit (by decide) hr).2 m hm⟩

end Mask

end UrlMask
