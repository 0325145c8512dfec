import UrlMask.Proofs.Regex.Swap
import UrlMask.Regex.Parser

/-!
# How repetitions are counted

The numbers between the braces of a counted repetition, as relations between places.

* `Parser.decimal_ok`: when a number is read.
* `Parser.Bounds`: the least and the greatest number of rounds.
* `Parser.Bounds.swap`: the same bounds are read before other ends.
-/
namespace UrlMask.Regex

namespace Parser

/-! ## Numbers -/

/-- The number that is written with these digits. -/
def numberOf (ds : List Char) : Nat := ds.foldl (fun n d => n * 10 + (d.toNat - '0'.toNat)) 0

theorem takeWhile_eq (p : Char → Bool) (c : Cursor) :
    c.takeWhile p = scan p false c.rest.length c := by
  obtain ⟨q, r⟩ := c
  induction r generalizing q with
  | nil => rfl
  | cons ch r ih =>
    have ih := ih (q + 1)
    simp only [Cursor.takeWhile] at ih
    simp only [Cursor.takeWhile, List.length_cons, scan, Cursor.peek, List.head?_cons,
      List.takeWhile_cons, List.dropWhile_cons, Cursor.advanceSkip, Cursor.advance, Cursor.skip,
      Bool.false_eq_true, if_false]
    split
    · rw [← ih]
      simp only [List.length_cons, Prod.mk.injEq, Cursor.mk.injEq, true_and, and_true]
      omega
    · rfl

section

variable {v : Bool} {c c' d : Cursor} {n : Nat} {t t' : List Char}

theorem decimal_ok : decimal v c = (.ok n, d) ↔ ∃ bs c₁ ds c₂ es,
    scan Text.isBlank false c.rest.length c = (bs, c₁) ∧
    scan Char.isDigit v c₁.rest.length c₁ = (ds, c₂) ∧
    scan Text.isBlank v c₂.rest.length c₂ = (es, d) ∧
    ds ≠ [] ∧ numberOf ds < Nat.pow 2 32 ∧ n = numberOf ds := by
  unfold decimal
  simp only [takeWhile_eq, digits_eq, blanks_eq]
  generalize scan Text.isBlank false c.rest.length c = x
  obtain ⟨bs, c₁⟩ := x
  dsimp only
  generalize hx : scan Char.isDigit v c₁.rest.length c₁ = x
  obtain ⟨ds, c₂⟩ := x
  dsimp only
  generalize hy : scan Text.isBlank v c₂.rest.length c₂ = y
  obtain ⟨es, c₃⟩ := y
  constructor
  · intro h
    split at h
    · cases h
    · next hd =>
      split at h
      · next hn =>
        cases h
        exact ⟨_, _, _, _, _, rfl, hx, hy, by simpa using hd, hn, rfl⟩
      · cases h
  · rintro ⟨_, _, _, _, _, h, hx', hy', hd, hn, rfl⟩
    cases h
    cases hx.symm.trans hx'
    cases hy.symm.trans hy'
    rw [if_neg (by simpa using hd)]
    exact if_pos hn

theorem decimal_suffix (h : decimal v c = (.ok n, d)) : d.rest <:+ c.rest := by
  obtain ⟨bs, c₁, ds, c₂, es, h₁, h₂, h₃, -⟩ := decimal_ok.1 h
  exact (suffix_of_scan h₃).trans ((suffix_of_scan h₂).trans (suffix_of_scan h₁))

theorem decimal_swap (e : Ends v t t') (hs : Swap t t' c c') (h : decimal v c = (.ok n, d))
    (ht : t <:+ d.rest) : ∃ d', decimal v c' = (.ok n, d') ∧ Swap t t' d d' := by
  obtain ⟨bs, c₁, ds, c₂, es, h₁, h₂, h₃, hd, hn, rfl⟩ := decimal_ok.1 h
  have ht₂ := ht.trans (suffix_of_scan h₃)
  obtain ⟨c₁', h₁', hs₁⟩ := scan_swap e.plain (Nat.le_refl _)
    (Nat.le_refl _) hs h₁ (ht₂.trans (suffix_of_scan h₂)) (.inl (by decide))
  obtain ⟨c₂', h₂', hs₂⟩ := scan_swap e (Nat.le_refl _) (Nat.le_refl _) hs₁ h₂ ht₂
    (.inl (by decide))
  obtain ⟨d', h₃', hd'⟩ := scan_swap e (Nat.le_refl _) (Nat.le_refl _) hs₂ h₃ ht (.inl (by decide))
  exact ⟨d', decimal_ok.2 ⟨bs, c₁', ds, c₂', es, h₁', h₂', h₃', hd, hn, rfl⟩, hd'⟩

end

/-! ## Bounds -/

/-- The bounds that are read from `c` on, up to the closing brace at `d`. -/
inductive Bounds (v : Bool) (c : Cursor) : Nat → Option Nat → Cursor → Prop
  | exact {n d} : decimal v c = (.ok n, d) → d.peek = some '\x7d' → Bounds v c n (some n) d
  | atLeast {n c₁} : decimal v c = (.ok n, c₁) → c₁.peek = some ',' →
    (c₁.advanceSkip v).peek = some '\x7d' → Bounds v c n none (c₁.advanceSkip v)
  | between {n c₁ m d} : decimal v c = (.ok n, c₁) → c₁.peek = some ',' →
    (c₁.advanceSkip v).peek ≠ some '\x7d' → decimal v (c₁.advanceSkip v) = (.ok m, d) →
    d.peek = some '\x7d' → Bounds v c n (some m) d

variable {v : Bool} {c c' d : Cursor} {n : Nat} {t t' : List Char}

namespace Bounds

variable {max : Option Nat}

theorem peek (h : Bounds v c n max d) : d.peek = some '\x7d' := by
  cases h <;> assumption

theorem suffix (h : Bounds v c n max d) : d.rest <:+ c.rest := by
  cases h with
  | exact h => exact decimal_suffix h
  | atLeast h => exact (Cursor.advanceSkip_suffix v _).trans (decimal_suffix h)
  | between h _ _ h₂ =>
    exact (decimal_suffix h₂).trans ((Cursor.advanceSkip_suffix v _).trans (decimal_suffix h))

theorem swap (e : Ends v t t') (hs : Swap t t' c c') (h : Bounds v c n max d)
    (ht : t <:+ d.advance.rest) : ∃ d', Bounds v c' n max d' ∧ Swap t t' d d' := by
  have ht₁ := ht.trans d.advance_suffix
  cases h with
  | exact h hp =>
    obtain ⟨d', h', hd⟩ := decimal_swap e hs h ht₁
    exact ⟨d', .exact h' (hd.peek hp ht), hd⟩
  | atLeast h hc hp =>
    obtain ⟨c₁', h', hs₁⟩ := decimal_swap e hs h (ht₁.trans (Cursor.advanceSkip_suffix v _))
    obtain ⟨hc', hd⟩ := hs₁.advanceSkip e hc ht₁
    exact ⟨_, .atLeast h' hc' (hd.peek hp ht), hd⟩
  | between h hc hn h₂ hp =>
    have ht₂ := ht₁.trans (decimal_suffix h₂)
    obtain ⟨c₁', h', hs₁⟩ := decimal_swap e hs h (ht₂.trans (Cursor.advanceSkip_suffix v _))
    obtain ⟨hc', hs₂⟩ := hs₁.advanceSkip e hc ht₂
    obtain ⟨d', h₂', hd⟩ := decimal_swap e hs₂ h₂ ht₁
    exact ⟨d', .between h' hc' (fun h => hn ((hs₂.peek_iff e (by decide)).1 h)) h₂'
      (hd.peek hp ht), hd⟩

end Bounds

theorem lazyMark_suffix {greedy : Bool} (h : lazyMark c = (greedy, d)) : d.rest <:+ c.rest := by
  unfold lazyMark at h
  split at h
  · cases h; exact c.advance_suffix
  · cases h; exact List.suffix_refl _

theorem lazyMark_swap (e : Ends v t t') (hs : Swap t t' c c') {greedy : Bool}
    (h : lazyMark c = (greedy, d)) (ht : t <:+ d.rest) :
    ∃ d', lazyMark c' = (greedy, d') ∧ Swap t t' d d' := by
  unfold lazyMark at *
  simp only [hs.peek_iff e (x := '?') (by decide)]
  split at h
  · next hq =>
    cases h
    exact ⟨_, if_pos hq, hs.advance hq ht⟩
  · next hq =>
    cases h
    exact ⟨_, if_neg hq, hs⟩

end Parser

end UrlMask.Regex
