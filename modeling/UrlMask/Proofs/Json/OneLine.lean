import UrlMask.Json.Printer
import UrlMask.Proofs.Text.Utf8

/-!
# Values on one line

Without blanks a value is written on one line, whatever stands in it: line ends are escaped, like
all control characters, and where nothing is escaped there are none.

* `escape_eq_self`: the characters that are written as they are.
* `visible_compact`: no control character is written.
-/
namespace UrlMask.Json

/-- No character of the text is a control character. -/
def Visible (s : List Char) : Prop := ∀ c ∈ s, 0x20 ≤ c.toNat

instance (s : List Char) : Decidable (Visible s) :=
  List.decidableBAll (fun c : Char => 0x20 ≤ c.toNat) s

theorem visible_append {s t : List Char} : Visible (s ++ t) ↔ Visible s ∧ Visible t :=
  List.forall_mem_append

theorem visible_cons {c : Char} {s : List Char} :
    Visible (c :: s) ↔ 0x20 ≤ c.toNat ∧ Visible s :=
  List.forall_mem_cons

theorem escape_eq_self {c : Char} (h : 0x20 ≤ c.toNat) (hq : c ≠ '"') (hb : c ≠ '\\') :
    escape c = [c] := by
  have hlow {a : Char} (ha : a.toNat < 0x20) : c ≠ a := by
    rintro rfl
    omega
  unfold escape
  rw [if_neg hq, if_neg hb, if_neg (hlow (by decide)), if_neg (hlow (by decide)),
    if_neg (hlow (by decide)), if_neg (hlow (by decide)), if_neg (hlow (by decide)),
    if_neg (by omega)]

theorem visible_escape (c : Char) : Visible (escape c) := by
  by_cases h : c.toNat < 128
  · exact of_decide_eq_true (Utf8.forall_ascii (p := fun c => decide (Visible (escape c)))
      (by decide) h)
  · rw [escape_eq_self (by omega)]
    · exact visible_cons.2 ⟨by omega, nofun⟩
    · rintro rfl
      exact h (by decide)
    · rintro rfl
      exact h (by decide)

theorem visible_quoted (s : List Char) : Visible (quoted s) := by
  have : Visible (s.flatMap escape) := fun c hc => by
    obtain ⟨a, -, hc⟩ := List.mem_flatMap.1 hc
    exact visible_escape a c hc
  simp only [quoted, visible_cons, visible_append, this]
  decide

theorem visible_decimalDigits (n : Nat) : Visible (decimalDigits n) := fun c hc => by
  have := Nat.isDigit_of_mem_toDigits (by decide) (by decide) hc
  simp only [Char.isDigit, Bool.and_eq_true, decide_eq_true_eq] at this
  have h := UInt32.le_iff_toNat_le.1 this.1
  exact Nat.le_trans (by decide) h

theorem visible_text (x : Binary64) : Visible x.text := by
  have hds := visible_decimalDigits
  have htake (n k : Nat) : Visible ((decimalDigits n).take k) := fun c hc =>
    hds n c (List.mem_of_mem_take hc)
  have hdrop (n k : Nat) : Visible ((decimalDigits n).drop k) := fun c hc =>
    hds n c (List.mem_of_mem_drop hc)
  have hzeros (n : Nat) : Visible (List.replicate n '0') := fun c hc => by
    rw [List.eq_of_mem_replicate hc]
    decide
  unfold Binary64.text
  simp only [visible_append]
  refine ⟨by split <;> decide, ?_⟩
  split
  · decide
  split
  · simp only [visible_append, hds, hzeros]
    decide
  split
  · simp only [visible_append, visible_cons, htake, hdrop]
    decide
  split
  · simp only [visible_append, visible_cons, hds, hzeros]
    decide
  · simp only [visible_append, visible_cons, hds]
    refine ⟨?_, by decide, by split <;> decide, trivial⟩
    split
    · exact hds _
    · simp only [visible_append, visible_cons, htake, hdrop]
      decide

theorem visible_scalar (j : Json) : Visible j.scalar := by
  cases j with
  | bool b => cases b <;> decide
  | integer n =>
    simp only [scalar, integerText]
    split
    · exact visible_cons.2 ⟨by decide, visible_decimalDigits _⟩
    · exact visible_decimalDigits _
  | float x => exact visible_text x
  | string s => exact visible_quoted _
  | null => decide
  | array _ | object _ => exact nofun

mutual

theorem visible_compact : (j : Json) → Visible j.compact
  | .null => visible_scalar .null
  | .bool b => visible_scalar (.bool b)
  | .integer n => visible_scalar (.integer n)
  | .float x => visible_scalar (.float x)
  | .string s => visible_scalar (.string s)
  | .array l =>
    visible_cons.2 ⟨by decide, visible_append.2 ⟨visible_items l, by decide⟩⟩
  | .object m =>
    visible_cons.2 ⟨by decide, visible_append.2 ⟨visible_members m, by decide⟩⟩

theorem visible_items : (l : List Json) → Visible (compact.items l)
  | [] => nofun
  | [j] => visible_compact j
  | j :: i :: js => by
    rw [compact.items]
    · exact visible_append.2
        ⟨visible_compact j, visible_cons.2 ⟨by decide, visible_items (i :: js)⟩⟩
    · exact List.cons_ne_nil _ _

theorem visible_members : (m : List (String × Json)) → Visible (compact.members m)
  | [] => nofun
  | [(k, j)] =>
    visible_append.2 ⟨visible_quoted _, visible_cons.2 ⟨by decide, visible_compact j⟩⟩
  | (k, j) :: e :: ms => by
    rw [compact.members]
    · refine visible_append.2 ⟨visible_quoted _, visible_cons.2 ⟨by decide, ?_⟩⟩
      exact visible_append.2
        ⟨visible_compact j, visible_cons.2 ⟨by decide, visible_members (e :: ms)⟩⟩
    · exact List.cons_ne_nil _ _

end

end UrlMask.Json
