import Mathlib.Data.List.Basic

/-!
# Lines

A text is split into lines at its line ends, which belong to no line.

* `splitOn_append_of_not_mem`: what is put in front of a text goes to its first line.
* `tail_splitOn_eq_nil`: a text is one line if there is no line end in it.
* `splitOn_lines`: texts that are written one after the other, each with a line end behind it.
-/
namespace UrlMask.Text

variable {α : Type} {s t : List Char}

theorem splitOn_append_of_not_mem (h : '\n' ∉ s) :
    (s ++ t).splitOn '\n' = (t.splitOn '\n').modifyHead (s ++ ·) := by
  induction s with
  | nil => exact (congrFun List.modifyHead_id (t.splitOn '\n')).symm
  | cons a s ih =>
    have hs : '\n' ∉ s := fun hs => h (List.mem_cons_of_mem a hs)
    have hne : ¬ (a == '\n') = true := fun he => h (eq_of_beq he ▸ List.mem_cons_self)
    rw [List.cons_append, List.splitOn_cons_eq_if_modifyHead, if_neg hne, ih hs,
      List.modifyHead_modifyHead]
    rfl

theorem tail_splitOn_eq_nil : (s.splitOn '\n').tail = [] ↔ '\n' ∉ s := by
  constructor
  · intro h hmem
    obtain ⟨t, u, rfl⟩ := List.append_of_mem hmem
    have ht := List.length_pos_of_ne_nil (List.splitOn_ne_nil '\n' t)
    have hu := List.length_pos_of_ne_nil (List.splitOn_ne_nil '\n' u)
    have htail := congrArg List.length h
    rw [List.splitOn_append_cons_self, List.length_tail, List.length_append,
      List.length_nil] at htail
    omega
  · intro h
    rw [List.splitOn_eq_singleton h, List.tail_cons]

/-- The lines are those of each text, and nothing stands behind the last line end. -/
theorem splitOn_lines (f : α → List Char) (l : List α) :
    (l.flatMap fun a => f a ++ ['\n']).splitOn '\n' =
      (l.flatMap fun a => (f a).splitOn '\n') ++ [[]] := by
  induction l with
  | nil => rfl
  | cons a l ih =>
    rw [List.flatMap_cons, List.append_assoc, List.singleton_append,
      List.splitOn_append_cons_self, ih, List.flatMap_cons, List.append_assoc]

end UrlMask.Text
