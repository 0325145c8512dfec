import UrlMask.Proofs.Mask.Containment

/-!
# Masks of one section

A regex in square brackets is a mask that accepts what the regex describes as a whole. The scan for
the end of the section counts brackets, escaped ones and those in classes too, so this needs a regex
in which they come in pairs.

* `Mask.accepts_iff_spans`: the mask of a regex accepts what the regex spans.
-/
namespace UrlMask

open Regex Regex.Parser

theorem Text.trim_section (s : List Char) :
    Text.trim ('[' :: (s ++ [']'])) = '[' :: (s ++ [']']) := by
  have hstart : Text.trimStart ('[' :: (s ++ [']'])) = '[' :: (s ++ [']']) := rfl
  rw [Text.trim, hstart, Text.trimEnd]
  have hend : ('[' :: (s ++ [']'])).reverse = ']' :: ('[' :: s).reverse := by simp
  rw [hend]
  show (']' :: ('[' :: s).reverse).reverse = _
  simp

namespace Layout

variable {u : List Char} {r : Regex}

/-- A single section is read as one item. -/
theorem Contained.tree (h : Contained u) : ∃ as new, (section' [] u (.literal [])).Tree as new ∧
    new.Nodup := by
  obtain ⟨a, new, hs⟩ := h.reads
  exact ⟨_, _, .section' hs .literal, by simpa using hs.nodup⟩

theorem cuts_one (hr : Means u r) (url : List Char) :
    (section' [] u (.literal [])).Cuts [] url ↔ Matches r [] url [] := by
  rw [cuts_section hr]
  constructor
  · rintro ⟨v, w, rfl, hv, hw⟩
    cases hw
    simpa using hv
  · intro h
    exact ⟨url, [], by simp, h, .literal⟩

end Layout

namespace Mask

/-- The mask of a regex accepts what the regex spans, or is refused for a limit, if its square
brackets come in pairs and no comment at its end runs on. -/
theorem accepts_iff_spans {s : List Char} {p : Parsed} {r : Regex} {f : Flags}
    (hp : Parsed.ofText s = .ok p) (hm : p.ast.meaning .init = .ok (r, f))
    (hbal : Layout.Balanced s)
    (hgroup : ∃ ast, Ast.ofText (Layout.groupOpen ++ (s ++ [')'])) = .ok ast)
    (template : Template) (limit : Nat) :
    (∀ e, ofText ('[' :: (s ++ [']'])) template limit = .error e →
      e.IsLimit ('[' :: (s ++ [']'])) limit) ∧
    ∀ m, ofText ('[' :: (s ++ [']'])) template limit = .ok m →
      ∀ url, m.accepts url = true ↔ Matches r [] url [] := by
  have ha := (Parsed.ofText_ok.1 hp).1
  have hr : Layout.Means s r := ⟨p.ast, f, ha, hm⟩
  obtain ⟨as, new, ht, hn⟩ := Layout.Contained.tree ⟨⟨_, ha⟩, hgroup⟩
  have hl : Layout.ofText (Text.trim ('[' :: (s ++ [']']))) = .section' [] s (.literal []) := by
    rw [Text.trim_section, Layout.ofText_section hbal]
  rw [← hl] at ht
  refine ⟨fun e => isLimit_of_tree (by rw [Text.trim_section]; simp) ht hn ?_, fun m hok url => ?_⟩
  · rw [hl]
    exact List.forall_mem_singleton.2 ⟨r, hr⟩
  · rw [(cuts_of_tree hok ht hn).2, hl, Layout.cuts_one hr]

/-- The brackets of `\[a\]` are escaped and come in pairs. -/
theorem accepts_iff_spans_of_escapes : ∃ p r f m, Parsed.ofText "\\[a\\]".toList = .ok p ∧
    p.ast.meaning .init = .ok (r, f) ∧ ofText "[\\[a\\]]".toList [] defaultLimit = .ok m ∧
    ∀ url, m.accepts url = true ↔ Matches r [] url [] := by
  have hok : (ofText "[\\[a\\]]".toList [] defaultLimit).toOption.any (fun _ => true) = true := by
    decide +kernel
  obtain ⟨m, hm, -⟩ := exists_ok_of_any hok
  have h := accepts_iff_spans (s := "\\[a\\]".toList) rfl rfl (by decide) ⟨_, rfl⟩ [] defaultLimit
  exact ⟨_, _, _, m, rfl, rfl, hm, h.2 m hm⟩

/-- The first bracket of `a]|\[b` ends the section, and what is left is a mask for other texts. The
comment at the end of `(?x)a #c` runs on beyond the section, which leaves its group open. -/
theorem misread_sections :
    (∃ p r f m, Parsed.ofText "a]|\\[b".toList = .ok p ∧ p.ast.meaning .init = .ok (r, f) ∧
      ofText "[a]|\\[b]".toList [] defaultLimit = .ok m ∧
      Matches r [] "a]".toList [] ∧ m.accepts "a]".toList = false) ∧
    ∃ p r f e, Parsed.ofText "(?x)a #c".toList = .ok p ∧ p.ast.meaning .init = .ok (r, f) ∧
      Layout.Balanced "(?x)a #c".toList ∧
      ofText "[(?x)a #c]".toList [] defaultLimit = .error e ∧
      ¬ e.IsLimit "[(?x)a #c]".toList defaultLimit := by
  constructor
  · have h : (ofText "[a]|\\[b]".toList [] defaultLimit).toOption.any
        (fun m => !m.accepts "a]".toList) = true := by decide +kernel
    obtain ⟨m, hm, ha⟩ := exists_ok_of_any h
    refine ⟨_, _, _, m, rfl, rfl, hm, ?_, by simpa using ha⟩
    exact .altLeft (.seq (u := ['a']) (v := [']']) (.set rfl) (.set rfl))
  · refine ⟨_, _, _, _, rfl, rfl, by decide, rfl, ?_⟩
    rintro (⟨_, _, h⟩ | h) <;> cases h

end Mask

end UrlMask
