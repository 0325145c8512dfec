import UrlMask.Text.Blank

/-!
# Trimming

A text is trimmed by what it begins and ends with.

* `trimStart_append`, `trimEnd_append`: blanks at an end go.
* `ends_of_trim_eq_self`: a text that stays as it is has no blanks at its ends.
* `trim_append_blanks`: blanks that are added to such a text go again.
-/
namespace UrlMask.Text

theorem trimStart_append {a : List Char} (ha : ∀ c ∈ a, isBlank c = true) (s : List Char) :
    trimStart (a ++ s) = trimStart s :=
  List.dropWhile_append_of_pos ha

theorem trimEnd_append (s : List Char) {b : List Char} (hb : ∀ c ∈ b, isBlank c = true) :
    trimEnd (s ++ b) = trimEnd s := by
  unfold trimEnd
  rw [List.reverse_append, List.dropWhile_append_of_pos fun c hc => hb c (List.mem_reverse.1 hc)]

theorem trimStart_cons {c : Char} (h : isBlank c = false) (s : List Char) :
    trimStart (c :: s) = c :: s := by
  simp [trimStart, h]

theorem trimEnd_concat (s : List Char) {c : Char} (h : isBlank c = false) :
    trimEnd (s ++ [c]) = s ++ [c] := by
  simp [trimEnd, h]

/-- A text that is not changed by trimming begins and ends with something else than a blank. -/
theorem ends_of_trim_eq_self {s : List Char} (h : trim s = s) :
    (∀ c ∈ s.head?, isBlank c = false) ∧ ∀ c ∈ s.getLast?, isBlank c = false := by
  have hstart : trimStart s = s := by
    apply (List.dropWhile_suffix _).eq_of_length_le
    have hle : (trim s).length ≤ (trimStart s).length := by
      simpa [trim, trimEnd] using
        (List.dropWhile_suffix isBlank (l := (trimStart s).reverse)).length_le
    rwa [h] at hle
  rw [trim, hstart] at h
  constructor
  · intro c hc
    obtain ⟨t, rfl⟩ := List.head?_eq_some_iff.1 hc
    cases hb : isBlank c with
    | false => rfl
    | true =>
      have hlen := (List.dropWhile_suffix isBlank (l := t)).length_le
      rw [trimStart, List.dropWhile_cons_of_pos hb] at hstart
      rw [hstart, List.length_cons] at hlen
      omega
  · intro c hc
    obtain ⟨t, rfl⟩ := List.getLast?_eq_some_iff.1 hc
    cases hb : isBlank c with
    | false => rfl
    | true =>
      have hlen := congrArg List.length h
      have hle := (List.dropWhile_suffix isBlank (l := t.reverse)).length_le
      simp only [trimEnd, List.reverse_append, List.reverse_cons, List.reverse_nil, List.nil_append,
        List.singleton_append, List.dropWhile_cons_of_pos hb, List.length_reverse,
        List.length_append, List.length_cons, List.length_nil] at hlen hle
      omega

theorem trim_append_blanks {s b : List Char} (hne : s ≠ []) (h : trim s = s)
    (hb : ∀ c ∈ b, isBlank c = true) : trim (s ++ b) = s := by
  obtain ⟨c, t, rfl⟩ := List.exists_cons_of_ne_nil hne
  have hc : isBlank c = false := (ends_of_trim_eq_self h).1 c rfl
  have hstart : trimStart (c :: t) = c :: t := trimStart_cons hc t
  rw [trim, hstart] at h
  rw [trim, List.cons_append, trimStart_cons hc, ← List.cons_append, trimEnd_append _ hb, h]

end UrlMask.Text
