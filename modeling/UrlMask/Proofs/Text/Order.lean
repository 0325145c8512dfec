import UrlMask.Text.Order

/-!
# The order of texts is a strict total order

* `precedes_irrefl`, `precedes_trans`: no text comes before itself, and the order is transitive.
* `eq_of_not_precedes`: of two texts one comes first, unless they are the same.
-/
namespace UrlMask.Text

theorem precedes_irrefl (s : List Char) : precedes s s = false := by
  induction s with
  | nil => rfl
  | cons a s ih => simp [precedes, ih]

theorem precedes_trans {s t u : List Char} (h : precedes s t = true) (h' : precedes t u = true) :
    precedes s u = true := by
  induction s generalizing t u with
  | nil =>
    rcases u with _ | ⟨c, u⟩
    · cases t <;> simp [precedes] at h'
    · rfl
  | cons a s ih =>
    rcases t with _ | ⟨b, t⟩
    · simp [precedes] at h
    rcases u with _ | ⟨c, u⟩
    · simp [precedes] at h'
    simp only [precedes, Bool.or_eq_true, Bool.and_eq_true, decide_eq_true_eq, beq_iff_eq] at *
    rcases h with h | ⟨rfl, h⟩
    · rcases h' with h' | ⟨rfl, -⟩
      · exact Or.inl (by omega)
      · exact Or.inl h
    · rcases h' with h' | ⟨rfl, h'⟩
      · exact Or.inl h'
      · exact Or.inr ⟨rfl, ih h h'⟩

theorem eq_of_not_precedes {s t : List Char} (h : precedes s t = false)
    (h' : precedes t s = false) : s = t := by
  induction s generalizing t with
  | nil =>
    cases t with
    | nil => rfl
    | cons b t => simp [precedes] at h
  | cons a s ih =>
    cases t with
    | nil => simp [precedes] at h'
    | cons b t =>
      simp only [precedes, Bool.or_eq_false_iff, Bool.and_eq_false_iff, decide_eq_false_iff_not,
        beq_eq_false_iff_ne] at h h'
      have hab : a = b := Char.toNat_inj.1 (by omega)
      subst hab
      rw [ih (h.2.resolve_left (by simp)) (h'.2.resolve_left (by simp))]

end UrlMask.Text
