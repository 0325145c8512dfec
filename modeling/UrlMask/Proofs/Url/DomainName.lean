import Mathlib.Data.List.Basic
import UrlMask.Proofs.Text.Span
import UrlMask.Proofs.Url.Form
import UrlMask.Url.DomainName

/-!
# Domain names in their one form

A mapped name consists of ASCII characters that a host may hold, whatever has been mapped: labels
beyond ASCII are written in letters, digits and hyphens. A name in small letters without labels in
Punycode is mapped to itself.

* `allowed_of_toAscii`: the characters of a mapped name.
* `toAscii_eq_self`: names that stay as they are.
-/
namespace UrlMask

/-! ## Punycode -/

namespace Punycode

theorem threshold_le (k bias : Nat) : threshold k bias ≤ 26 := by
  unfold threshold
  split
  · decide
  · split <;> omega

/-- The digits of a number are digits. -/
theorem mem_digits {bias fuel k q : Nat} {c : Char} (h : c ∈ digits bias fuel k q) :
    ∃ d < 36, c = digitChar d := by
  induction fuel generalizing k q with
  | zero => cases h
  | succ fuel ih =>
    have ht := threshold_le k bias
    unfold digits at h
    dsimp only at h
    split at h
    · exact ⟨q, by omega, List.mem_singleton.1 h⟩
    · rcases List.mem_cons.1 h with h | h
      · have := Nat.mod_lt (q - threshold k bias) (show 36 - threshold k bias > 0 by omega)
        exact ⟨_, by omega, h⟩
      · exact ih h

theorem mem_out_pass {basic n : Nat} {w : Writer} {m : Nat} {c : Char}
    (h : c ∈ (w.pass basic n m).out) : c ∈ w.out ∨ ∃ d < 36, c = digitChar d := by
  unfold Writer.pass at h
  split at h
  · exact Or.inl h
  · split at h
    · exact (List.mem_append.1 h).imp_right mem_digits
    · exact Or.inl h

theorem mem_out_foldl {basic n : Nat} {label : List Nat} {w : Writer} {c : Char}
    (h : c ∈ (label.foldl (Writer.pass basic n) w).out) :
    c ∈ w.out ∨ ∃ d < 36, c = digitChar d := by
  induction label generalizing w with
  | nil => exact Or.inl h
  | cons m label ih => exact (ih h).elim mem_out_pass Or.inr

theorem mem_out_writeAll {label : List Nat} {basic : Nat} {ms : List Nat} {n : Nat} {w : Writer}
    {c : Char} (h : c ∈ (writeAll label basic ms n w).out) :
    c ∈ w.out ∨ ∃ d < 36, c = digitChar d := by
  induction ms generalizing n w with
  | nil => exact Or.inl h
  | cons m ms ih => exact (ih h).elim mem_out_foldl Or.inr

/-- A written label consists of its ASCII characters, a hyphen and digits. -/
theorem mem_encode {label : List Char} {c : Char} (h : c ∈ encode label) :
    (c ∈ label ∧ c.toNat < 0x80) ∨ c = '-' ∨ ∃ d < 36, c = digitChar d := by
  rcases mem_out_writeAll h with h | h
  · split at h
    · cases h
    · rcases List.mem_append.1 h with h | h
      · exact Or.inl (by simpa using h)
      · exact Or.inr (Or.inl (List.mem_singleton.1 h))
  · exact Or.inr (Or.inr h)

end Punycode

namespace DomainName

/-- An ASCII character that a host may hold. -/
def isAllowed (c : Char) : Bool := c.toNat < 0x80 && !isForbidden c

theorem isAllowed_digitChar {d : Nat} (h : d < 36) : isAllowed (Punycode.digitChar d) = true := by
  have := (by decide : ∀ i : Fin 36, isAllowed (Punycode.digitChar i.val) = true)
  exact this ⟨d, h⟩

/-! ## The characters of a mapped name -/

theorem allowed_of_ofChars {s : List Char} {l : Label} (h : Label.ofChars s = some l)
    (hs : ∀ c ∈ s, isForbidden c = false) : ∀ c ∈ l.written, isAllowed c = true := by
  have hascii (ha : isAscii s = true) : ∀ c ∈ s, isAllowed c = true := fun c hc => by
    have := List.all_eq_true.1 ha c hc
    simp only [isAllowed, this, hs c hc, Bool.not_false, Bool.and_self]
  unfold Label.ofChars at h
  split at h
  · split at h
    · next ha =>
      obtain ⟨chars, -, rfl⟩ := Option.map_eq_some_iff.1 h
      exact hascii ha
    · cases h
  · split at h
    · next ha =>
      cases h
      exact hascii ha
    · split at h
      · cases h
        intro c hc
        rcases List.mem_append.1 hc with hc | hc
        · have hm : punycodeMark.all isAllowed = true := by decide
          exact List.all_eq_true.1 hm c hc
        · rcases Punycode.mem_encode hc with ⟨hc, ha⟩ | rfl | ⟨d, hd, rfl⟩
          · simp only [isAllowed, ha, hs c hc, decide_true, Bool.not_false, Bool.and_self]
          · decide
          · exact isAllowed_digitChar hd
      · cases h

theorem allowed_of_labels {name : List Char} {ls : List Label} (h : labels name = some ls) :
    ∀ l ∈ ls, ∀ c ∈ l.written, isAllowed c = true := by
  unfold labels at h
  obtain ⟨pieces, -, h⟩ := Option.bind_eq_some_iff.1 h
  split at h
  · cases h
  · next hf =>
    intro l hl
    obtain ⟨s, hs, hof⟩ := Span.exists_of_mem_mapM h l hl
    obtain ⟨p, hp, hs⟩ := List.mem_flatMap.1 hs
    refine allowed_of_ofChars hof fun c hc => ?_
    have hc := (Form.mem_splitOn hs).2 c hc
    cases hcf : isForbidden c with
    | false => rfl
    | true => exact absurd (List.any_eq_true.2 ⟨p, hp, List.any_eq_true.2 ⟨c, hc, hcf⟩⟩) hf

theorem mem_joinDots {ls : List (List Char)} {c : Char} (h : c ∈ joinDots ls) :
    c = '.' ∨ ∃ l ∈ ls, c ∈ l := by
  induction ls with
  | nil => cases h
  | cons l ls ih =>
    cases ls with
    | nil => exact Or.inr ⟨l, by simp, h⟩
    | cons m ls =>
      rw [joinDots] at h
      · rcases List.mem_append.1 h with h | h
        · exact Or.inr ⟨l, by simp, h⟩
        · rcases List.mem_cons.1 h with h | h
          · exact Or.inl h
          · exact (ih h).imp_right fun ⟨n, hn, hc⟩ => ⟨n, List.mem_cons_of_mem _ hn, hc⟩
      · simp

/-- A mapped name holds allowed characters only. -/
theorem allowed_of_toAscii {name d : List Char} (h : toAscii name = some d) :
    ∀ c ∈ d, isAllowed c = true := by
  obtain ⟨ls, hls, h⟩ := Option.bind_eq_some_iff.1 h
  split at h
  · cases h
  · cases h
    intro c hc
    rcases mem_joinDots hc with rfl | ⟨w, hw, hc⟩
    · decide
    · obtain ⟨l, hl, rfl⟩ := List.mem_map.1 hw
      exact allowed_of_labels hls l hl c hc

/-! ## Names that stay -/

/-- Whether a name holds a capital letter or a label in Punycode. -/
def isMarked (d : List Char) : Bool :=
  d.any Char.isUpper || (Form.splitOn '.' d).any punycodeMark.isPrefixOf

theorem joinDots_eq (l : List Char) (ls : List (List Char)) :
    joinDots (l :: ls) = l ++ ls.flatMap ('.' :: ·) := by
  induction ls generalizing l with
  | nil => simp [joinDots]
  | cons m ls ih => rw [joinDots, ih m] <;> simp

/-- The pieces of a text, with the separators between them. -/
theorem joinDots_splitOn (d : List Char) : joinDots (Form.splitOn '.' d) = d := by
  induction d with
  | nil => rfl
  | cons c d ih =>
    by_cases hc : c = '.'
    · subst hc
      obtain ⟨p, ps, hp⟩ : ∃ p ps, Form.splitOn '.' d = p :: ps :=
        List.exists_cons_of_ne_nil (Form.splitOn_ne_nil d)
      rw [Form.splitOn, if_pos rfl, joinDots_eq]
      rw [hp, joinDots_eq] at ih
      rw [hp, List.flatMap_cons, List.nil_append, List.cons_append, ih]
    · obtain ⟨p, ps, hp, hcp⟩ := Form.splitOn_cons_of_ne hc d
      rw [hp, joinDots_eq] at ih
      rw [hcp, joinDots_eq, List.cons_append, ih]

theorem toLower_eq_self {c : Char} (h : ¬ c.isUpper = true) : c.toLower = c := by
  unfold Char.toLower
  exact dif_neg fun hc => h (decide_eq_true hc)

/-- No ASCII character runs from right to left. -/
theorem not_isRightToLeft_of_isAscii {p : List Char} (h : isAscii p = true) :
    ¬ isRightToLeft p = true := by
  simp only [isRightToLeft, List.any_eq_true, not_exists, not_and, Bool.and_eq_true,
    decide_eq_true_eq]
  intro c hc hge
  have := of_decide_eq_true (List.all_eq_true.1 h c hc)
  omega

section Unmarked

variable {d : List Char}

theorem isAscii_of_mem (ha : ∀ c ∈ d, isAllowed c = true) {p : List Char}
    (h : p ∈ Form.splitOn '.' d) : isAscii p = true := by
  refine List.all_eq_true.2 fun c hc => ?_
  have := ha c ((Form.mem_splitOn h).2 c hc)
  simp only [isAllowed, Bool.and_eq_true] at this
  exact this.1

theorem mapM_mapPiece (ha : ∀ c ∈ d, isAllowed c = true) (hm : isMarked d = false) :
    (Form.splitOn '.' d).mapM mapPiece = some (Form.splitOn '.' d) := by
  simp only [isMarked, Bool.or_eq_false_iff, List.any_eq_false] at hm
  refine (Span.mapM_eq_map (g := id) fun p h => ?_).trans (by rw [List.map_id])
  rw [mapPiece, if_pos (isAscii_of_mem ha h)]
  refine congrArg some ((List.map_congr_left fun c hc => ?_).trans (List.map_id p))
  exact toLower_eq_self (hm.1 c ((Form.mem_splitOn h).2 c hc))

/-- The labels are the pieces of the name as they are. -/
theorem labels_eq (ha : ∀ c ∈ d, isAllowed c = true) (hm : isMarked d = false) :
    labels d = some ((Form.splitOn '.' d).map fun p => ⟨p, p⟩) := by
  have hforbidden : (Form.splitOn '.' d).any (·.any isForbidden) = false := by
    simp only [List.any_eq_false]
    intro p h
    simp only [List.any_eq_true, not_exists, not_and]
    intro c hc
    have := ha c ((Form.mem_splitOn h).2 c hc)
    simp only [isAllowed, Bool.and_eq_true, Bool.not_eq_true'] at this
    simp [this.2]
  have hflat : (Form.splitOn '.' d).flatMap (Form.splitOn '.') = Form.splitOn '.' d := by
    rw [List.flatMap_congr fun p h => Form.splitOn_eq_self (Form.mem_splitOn h).1]
    exact List.flatMap_singleton' _
  unfold labels
  rw [mapM_mapPiece ha hm]
  show (if (Form.splitOn '.' d).any (·.any isForbidden) then none
    else ((Form.splitOn '.' d).flatMap (Form.splitOn '.')).mapM Label.ofChars) = _
  rw [hforbidden, hflat]
  simp only [isMarked, Bool.or_eq_false_iff, List.any_eq_false] at hm
  exact Span.mapM_eq_map fun p h => by
    rw [Label.ofChars, if_neg (hm.2 p h), if_pos (isAscii_of_mem ha h)]

/-- A name in small letters without labels in Punycode is mapped to itself. -/
theorem toAscii_eq_self (ha : ∀ c ∈ d, isAllowed c = true) (hm : isMarked d = false) :
    toAscii d = some d := by
  have hdir : ((Form.splitOn '.' d).map fun p => (⟨p, p⟩ : Label)).any
      (fun l => isRightToLeft l.chars) = false := by
    simp only [List.any_eq_false, List.mem_map]
    rintro _ ⟨p, h, rfl⟩
    exact not_isRightToLeft_of_isAscii (isAscii_of_mem ha h)
  unfold toAscii
  rw [labels_eq ha hm]
  show (if (((Form.splitOn '.' d).map fun p => (⟨p, p⟩ : Label)).any
      (fun l => isRightToLeft l.chars) && _) = true then none else some _) = some d
  rw [hdir, Bool.false_and, if_neg (by simp), List.map_map]
  refine congrArg some (Eq.trans ?_ (joinDots_splitOn d))
  exact congrArg joinDots (List.map_id _)

end Unmarked

end DomainName

end UrlMask
