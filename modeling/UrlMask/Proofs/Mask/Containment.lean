import UrlMask.Proofs.Mask.Language

/-!
# Sections that stay in their groups

A section is copied into the source of its mask. One that is a regex of its own, and still one in
round brackets, ends where its group ends: then every text that the mask accepts begins and ends
as the mask does. Other sections can close their group and leave a bar outside of it.

* `Layout.Contained`: what is asked of a section.
* `Layout.Tree.of_ofText`: a source that is read, with such sections, is read as its items.
* `Mask.prefix_and_suffix`: an accepted text begins and ends as the mask does.
-/
namespace UrlMask

open Regex Regex.Parser

namespace Layout

/-- The text is a regex, and it is one in round brackets too. -/
def Contained (u : List Char) : Prop :=
  (∃ ast, Ast.ofText u = .ok ast) ∧ ∃ ast, Ast.ofText (groupOpen ++ (u ++ [')'])) = .ok ast

theorem Contained.reads {u : List Char} (h : Contained u) : ∃ a new, Section u a new := by
  obtain ⟨⟨ast, ha⟩, ast', ha'⟩ := h
  exact ⟨_, Section.of_ofText ha ha'⟩

variable {lay : Layout} {ast : Ast}

/-- A run through a source passes the items of a layout, and then goes on. -/
theorem Tree.passes {s₂ : State} {c₂ : Cursor} (hcl : lay.Closed)
    (hs : ∀ u ∈ lay.sections, Contained u) {r : List Char}
    (hr : Reaches .init ⟨0, '^' :: (lay.body ++ r)⟩ s₂ c₂) (hst : Stuck s₂ c₂)
    (hg : s₂.groups = []) : ∃ as new s c, lay.Tree as new ∧ new.Nodup ∧
      Top (as.reverse ++ [startTree]) new s ∧ c.rest = r ∧ Reaches s c s₂ c₂ := by
  obtain ⟨s, c, h, hc, t⟩ := Top.reads_start (r := lay.body ++ r)
  have hr := h.confluent hr hst
  obtain ⟨as, new, ht, hn⟩ := Tree.of_reads hcl (fun u hu => (hs u hu).reads) t .nil hc hr hst hg
  obtain ⟨s', c', h', hc', t'⟩ := ht.reads t hn hc
  rw [List.append_nil] at hn t'
  exact ⟨as, new, s', c', ht, hn, t', hc', h'.confluent hr hst⟩

/-- A source that is read is read as the items of its layout. -/
theorem Tree.of_ofText (hcl : lay.Closed) (hs : ∀ u ∈ lay.sections, Contained u)
    (h : Ast.ofText lay.source = .ok ast) : ∃ as new, lay.Tree as new ∧ new.Nodup := by
  obtain ⟨s, c, hr, hend, hg, -⟩ := Ast.ofText_ok.1 h
  obtain ⟨as, new, -, -, ht, hn, -⟩ := Tree.passes hcl hs hr (stuck_of_end hend) hg
  exact ⟨as, new, ht, hn⟩

/-- A run through a source comes to the group of the section that is never closed. -/
theorem Tree.passes_front {s₂ : State} {c₂ : Cursor} (hcl : ¬ lay.Closed)
    (hs : ∀ u ∈ lay.sections, Contained u) (hr : Reaches .init ⟨0, lay.source⟩ s₂ c₂)
    (hst : Stuck s₂ c₂) (hg : s₂.groups = []) : ∃ as new s c, lay.front.Tree as new ∧ new.Nodup ∧
      Top (as.reverse ++ [startTree]) new s ∧ c.rest = lay.openGroup ∧ Reaches s c s₂ c₂ := by
  rw [source, body_of_unclosed hcl, List.append_assoc, List.append_assoc] at hr
  exact Tree.passes lay.closed_front (by rwa [sections_front]) hr hst hg

/-- A section that is never closed does not close its group either, if it is one of its own. -/
theorem closed_of_ofText (hs : ∀ u ∈ lay.sections, Contained u)
    (ht : ¬ lay.Closed → Contained lay.tail) (h : Ast.ofText lay.source = .ok ast) :
    lay.Closed := by
  refine Decidable.byContradiction fun hcl => ?_
  obtain ⟨s, c, hr, hend, hg, -⟩ := Ast.ofText_ok.1 h
  obtain ⟨as, names, s₁, c₁, -, hn, t, hc, hr₁⟩ :=
    Tree.passes_front hcl hs hr (stuck_of_end hend) hg
  obtain ⟨u, v, a, new, -, -, hu, hsec, -⟩ :=
    Section.of_reads t hn hc hr₁ (stuck_of_end hend) hg
  -- The `$` at the end is no bracket, so the bracket that closes the group is in the section.
  rcases List.eq_nil_or_concat v with rfl | ⟨v, x, rfl⟩
  · have := (List.append_inj' hu rfl).2
    cases this
  · rw [List.concat_eq_append, ← List.cons_append, ← List.append_assoc] at hu
    obtain ⟨ha, -⟩ := List.append_inj' hu rfl
    obtain ⟨⟨ast, htail⟩, -⟩ := ht hcl
    rw [ha] at htail
    exact hsec.not_ofText v ast htail

/-! ## Both ends -/

theorem Cuts.lead {b w : List Char} (h : lay.Cuts b w) : lay.lead <+: w := by
  cases h with
  | literal => exact List.prefix_refl _
  | section' => exact List.prefix_append _ _

theorem Cuts.last {b w : List Char} (h : lay.Cuts b w) : lay.last <:+ w := by
  induction h with
  | literal => exact List.suffix_refl _
  | section' _ _ _ ih => exact ih.trans (List.append_assoc .. ▸ List.suffix_append _ _)

theorem Cuts.of_no_sections {b w : List Char} (h : lay.Cuts b w) (hs : lay.sections = []) :
    w = lay.text := by
  cases h with
  | literal => rfl
  | section' => cases hs

end Layout

namespace Mask

variable {text : List Char} {template : Template} {limit : Nat}

/-- If the sections stay in their groups, all of them are closed, and an accepted text begins with
the literal text before the first of them and ends with that after the last. Without sections it is
the mask. -/
theorem prefix_and_suffix {m : Mask} (hok : ofText text template limit = .ok m)
    (hs : ∀ u ∈ (Layout.ofText (Text.trim text)).sections, Layout.Contained u)
    (ht : ¬ (Layout.ofText (Text.trim text)).Closed →
      Layout.Contained (Layout.ofText (Text.trim text)).tail) :
    (Layout.ofText (Text.trim text)).Closed ∧ ∀ url, m.accepts url = true →
      (Layout.ofText (Text.trim text)).lead <+: url ∧
      (Layout.ofText (Text.trim text)).last <:+ url ∧
      ((Layout.ofText (Text.trim text)).sections = [] → url = Text.trim text) := by
  obtain ⟨-, p, f, hp, -⟩ := ofText_ok hok
  obtain ⟨hast, -⟩ := Parsed.ofText_ok.1 hp
  have hcl := Layout.closed_of_ofText hs ht hast
  obtain ⟨as, new, htree, hn⟩ := Layout.Tree.of_ofText hcl hs hast
  refine ⟨hcl, fun url ha => ?_⟩
  have hcuts := ((cuts_of_tree hok htree hn).2 url).1 ha
  exact ⟨hcuts.lead, hcuts.last, fun h => (hcuts.of_no_sections h).trans (Layout.text_ofText _)⟩

/-- The section `b|cd` stays in its group. -/
theorem prefix_and_suffix_of_branches : ∃ m, ofText "a[b|cd]e".toList [] defaultLimit = .ok m ∧
    ∀ url, m.accepts url = true → ['a'] <+: url ∧ ['e'] <:+ url := by
  have hok : (ofText "a[b|cd]e".toList [] defaultLimit).toOption.any (fun _ => true) = true := by
    decide +kernel
  obtain ⟨m, hm, -⟩ := exists_ok_of_any hok
  have hl : Layout.ofText (Text.trim "a[b|cd]e".toList) =
      .section' ['a'] ['b', '|', 'c', 'd'] (.literal ['e']) := by decide
  have hc : Layout.Contained ['b', '|', 'c', 'd'] := ⟨⟨_, rfl⟩, _, rfl⟩
  obtain ⟨-, h⟩ := prefix_and_suffix hm (by rw [hl]; exact List.forall_mem_singleton.2 hc)
    (by rw [hl]; exact fun h => absurd trivial h)
  rw [hl] at h
  exact ⟨m, hm, fun url ha => ⟨(h url ha).1, (h url ha).2.1⟩⟩

/-- The section `b)|(c` is no regex and closes its group, so that the second branch is not anchored
at the start. In the other mask each section is a regex, but the comment at the end of the first
runs on to the next line: there a bar comes to stand outside of the group. -/
theorem escaping_sections :
    (∃ m, ofText "a[b)|(c]d".toList [] defaultLimit = .ok m ∧ m.accepts "xcd".toList = true ∧
      ¬ (Layout.ofText (Text.trim "a[b)|(c]d".toList)).lead <+: "xcd".toList) ∧
    ∃ m, ofText "[(?x)a #c]x[[#\n)|(]]y".toList [] defaultLimit = .ok m ∧
      (∀ u ∈ (Layout.ofText (Text.trim "[(?x)a #c]x[[#\n)|(]]y".toList)).sections,
        ∃ ast, Ast.ofText u = .ok ast) ∧
      m.accepts "azzz".toList = true ∧
      ¬ (Layout.ofText (Text.trim "[(?x)a #c]x[[#\n)|(]]y".toList)).last <:+ "azzz".toList := by
  constructor
  · have h : (ofText "a[b)|(c]d".toList [] defaultLimit).toOption.any (·.accepts "xcd".toList) =
        true := by decide +kernel
    obtain ⟨m, hm, ha⟩ := exists_ok_of_any h
    exact ⟨m, hm, ha, by decide⟩
  · have h : (ofText "[(?x)a #c]x[[#\n)|(]]y".toList [] defaultLimit).toOption.any
        (·.accepts "azzz".toList) = true := by decide +kernel
    obtain ⟨m, hm, ha⟩ := exists_ok_of_any h
    have hs : (Layout.ofText (Text.trim "[(?x)a #c]x[[#\n)|(]]y".toList)).sections =
        ["(?x)a #c".toList, "[#\n)|(]".toList] := by decide
    rw [hs]
    refine ⟨m, hm, List.forall_mem_cons.2 ⟨⟨_, rfl⟩, ?_⟩, ha, by decide⟩
    exact List.forall_mem_singleton.2 ⟨_, rfl⟩

end Mask

end UrlMask
