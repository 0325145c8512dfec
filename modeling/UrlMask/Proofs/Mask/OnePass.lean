import UrlMask.Proofs.Mask.Division

/-!
# The source in one pass

The source of a mask can be written while the mask is read, with nothing kept but how many brackets
are open. A bracket that opens or closes a section becomes that of its group, what stands inside a
section is copied, and everything else is escaped. This gives the source of the layout, which takes
the mask apart first.

* `Pass.step`: what a character comes to.
* `Pass.run_text`: the pass over the text of a proper layout.
* `Mask.sourceOf_eq_pass`: the source of a mask is what the pass writes.
-/
namespace UrlMask

namespace Layout

/-- A pass over a mask: the brackets that are open, and what has been written. -/
structure Pass where
  depth : Nat
  written : List Char

namespace Pass

def write (p : Pass) (s : List Char) : Pass := { p with written := p.written ++ s }

/-- Copies a character inside a section, and escapes it outside of all. -/
def copy (p : Pass) (c : Char) : Pass := p.write (if 0 < p.depth then [c] else escapeChar c)

/-- What a character comes to. Only the outermost brackets are those of a section. -/
def step (p : Pass) (c : Char) : Pass :=
  if c = '[' then
    let p := { p with depth := p.depth + 1 }
    if p.depth = 1 then p.write groupOpen else p.copy c
  else if c = ']' ∧ 0 < p.depth then
    let p := { p with depth := p.depth - 1 }
    if p.depth = 0 then p.write [')'] else p.copy c
  else p.copy c

def run (p : Pass) (s : List Char) : Pass := s.foldl step p

/-- The source that is written over a whole mask. -/
def source (s : List Char) : List Char := ((Pass.run ⟨0, ['^']⟩ s).write ['$']).written

/-! ## Single characters -/

section Step

variable {c : Char} (d : Nat) (w : List Char)

theorem step_enter : step ⟨0, w⟩ '[' = ⟨1, w ++ groupOpen⟩ := rfl

theorem step_leave : step ⟨1, w⟩ ']' = ⟨0, w ++ [')']⟩ := rfl

theorem step_open : step ⟨d + 1, w⟩ '[' = ⟨d + 2, w ++ ['[']⟩ := rfl

theorem step_close : step ⟨d + 2, w⟩ ']' = ⟨d + 1, w ++ [']']⟩ := rfl

theorem step_inside (h : c ≠ '[') (h' : c ≠ ']') : step ⟨d + 1, w⟩ c = ⟨d + 1, w ++ [c]⟩ := by
  rw [step, if_neg h, if_neg fun hc => h' hc.1]
  rfl

theorem step_outside (h : c ≠ '[') : step ⟨0, w⟩ c = ⟨0, w ++ escapeChar c⟩ := by
  rw [step, if_neg h, if_neg fun hc => Nat.lt_irrefl 0 hc.2]
  rfl

end Step

/-! ## Parts of a mask -/

theorem run_append (p : Pass) (s t : List Char) : p.run (s ++ t) = (p.run s).run t :=
  List.foldl_append

theorem run_cons (p : Pass) (c : Char) (s : List Char) : p.run (c :: s) = (p.step c).run s := rfl

/-- Literal text is escaped. -/
theorem run_lead {l : List Char} (h : '[' ∉ l) (w : List Char) :
    run ⟨0, w⟩ l = ⟨0, w ++ escape l⟩ := by
  induction l generalizing w with
  | nil => rw [escape, List.flatMap_nil, List.append_nil]; rfl
  | cons c l ih =>
    have hc : c ≠ '[' := (List.ne_of_not_mem_cons h).symm
    rw [run_cons, step_outside w hc, ih (List.not_mem_of_not_mem_cons h), escape, escape,
      List.flatMap_cons, List.append_assoc]

/-- What stands inside a section is copied, as long as it does not close it. -/
theorem run_inside {d e : Nat} {u : List Char} (h : depthAfter d u = some e) (w : List Char) :
    run ⟨d + 1, w⟩ u = ⟨e + 1, w ++ u⟩ := by
  induction u generalizing d w with
  | nil => cases h; rw [List.append_nil]; rfl
  | cons c u ih =>
    rw [run_cons, List.append_cons]
    obtain ⟨rfl, hs⟩ | ⟨d, rfl, rfl, hs⟩ | ⟨hc, hc', hs⟩ := depthAfter_cons h
    · rw [step_open, ih hs]
    · rw [step_close, ih hs]
    · rw [step_inside d w hc hc', ih hs]

/-- Over the text of a proper layout its body is written. -/
theorem run_text {lay : Layout} (h : lay.Proper) (w : List Char) :
    (run ⟨0, w⟩ lay.text).written = w ++ lay.body := by
  induction lay generalizing w with
  | literal l => rw [text, run_lead h, body]
  | unclosed l t =>
    obtain ⟨hl, ht⟩ := h
    obtain ⟨e, he⟩ := neverCloses_iff.1 ht
    rw [text, run_append, run_lead hl, run_cons, step_enter, run_inside he, body]
    simp only [List.append_assoc]
  | section' l u rest ih =>
    obtain ⟨hl, hu, hrest⟩ := h
    rw [text, run_append, run_lead hl, run_cons, step_enter, run_append,
      run_inside (balanced_iff_paired.2 hu), run_cons, step_leave, ih hrest, body]
    simp only [List.append_assoc, List.cons_append, List.nil_append]

/-- The pass writes the source of the layout. -/
theorem source_eq (s : List Char) : source s = (ofText s).source := by
  have hrun := run_text (proper_ofText s) ['^']
  rw [text_ofText] at hrun
  rw [source, write, hrun, Layout.source]
  rfl

end Pass

end Layout

/-- The source of a mask is written in one pass over it. -/
theorem Mask.sourceOf_eq_pass (text : List Char) : sourceOf text =
    if (Text.trim text).isEmpty then .error (.malformed text .blank)
    else .ok (Layout.Pass.source (Text.trim text)) := by
  rw [sourceOf, Layout.Pass.source_eq]

end UrlMask
