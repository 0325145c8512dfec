import Mathlib.Data.List.Infix

/-!
# Brackets that come in pairs

Brackets are counted, whatever else stands between them. A text in which they come in pairs ends
where a bracket is closed that it did not open, so what follows it cannot move its end.

* `Paired.not_prefix`: with one more closing bracket it is no part of a text that never closes.
* `Paired.append_inj`: where a closing bracket follows, the end of the text is settled.
-/
namespace UrlMask.Text

variable {o c : Char} {s t u v : List Char}

/-- Nowhere have more brackets been closed than opened. -/
def NeverCloses (o c : Char) (s : List Char) : Prop := ∀ p, p <+: s → p.count c ≤ p.count o

/-- As many brackets are closed as opened, and none before it was opened. -/
structure Paired (o c : Char) (s : List Char) : Prop where
  count_eq : s.count o = s.count c
  neverCloses : NeverCloses o c s

instance (o c : Char) (s : List Char) : Decidable (NeverCloses o c s) :=
  decidable_of_iff (∀ p ∈ s.inits, p.count c ≤ p.count o) (by
    simp only [NeverCloses, List.mem_inits])

instance (o c : Char) (s : List Char) : Decidable (Paired o c s) :=
  decidable_of_iff (s.count o = s.count c ∧ NeverCloses o c s)
    ⟨fun h => ⟨h.1, h.2⟩, fun h => ⟨h.count_eq, h.neverCloses⟩⟩

theorem Paired.not_prefix (hne : o ≠ c) (hs : Paired o c s) (ht : NeverCloses o c t) :
    ¬ s ++ [c] <+: t := by
  intro h
  have hle := ht _ h
  have heq := hs.count_eq
  rw [List.count_append, List.count_append, List.count_singleton_self,
    List.count_singleton, if_neg (by simpa using hne.symm)] at hle
  omega

theorem Paired.append_inj (hne : o ≠ c) (hs : Paired o c s) (ht : Paired o c t)
    (h : s ++ c :: u = t ++ c :: v) : s = t ∧ u = v := by
  -- If one of the two were longer, it would go on with the bracket that ends the other.
  rcases List.append_eq_append_iff.1 h with ⟨_ | ⟨d, a⟩, rfl, ha⟩ | ⟨_ | ⟨d, a⟩, rfl, ha⟩
  · exact ⟨by simp, (List.cons.inj ha).2⟩
  · obtain ⟨rfl, -⟩ := List.cons.inj ha
    exact absurd ⟨a, by simp⟩ (hs.not_prefix hne ht.neverCloses)
  · exact ⟨by simp, (List.cons.inj ha).2.symm⟩
  · obtain ⟨rfl, -⟩ := List.cons.inj ha
    exact absurd ⟨a, by simp⟩ (ht.not_prefix hne hs.neverCloses)

end UrlMask.Text
