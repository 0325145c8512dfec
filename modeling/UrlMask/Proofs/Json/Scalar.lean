import UrlMask.Json.Parser
import UrlMask.Proofs.Json.OneLine
import UrlMask.Proofs.Text.Span

/-!
# Strings and numbers are read back

What is written for a value that is neither an array nor an object is read as this value, whatever
follows it in the text. Floating-point numbers are left out.

* `string_escape`: a character is read back, escaped or not.
* `string_quoted`: so is a text in quotation marks.
* `read_decimalDigits`: the digits of a number are read if it fits in 64 bits.
-/
namespace UrlMask.Json

/-! ## Blanks -/

section Blanks

variable {b : List Char} {c : Char}

theorem skip_self (hc : Cursor.isBlank c = false) (p : Place) (r : List Char) :
    Cursor.skip ⟨p, c :: r⟩ = ⟨p, c :: r⟩ :=
  if_neg (Bool.eq_false_iff.1 hc)

/-- Blanks before another character are passed over. -/
theorem skip_append (hb : ∀ d ∈ b, Cursor.isBlank d = true) (hc : Cursor.isBlank c = false)
    (p : Place) (r : List Char) : ∃ p', Cursor.skip ⟨p, b ++ c :: r⟩ = ⟨p', c :: r⟩ := by
  induction b generalizing p with
  | nil => exact ⟨p, skip_self hc p r⟩
  | cons d b ih =>
    obtain ⟨hd, hb⟩ := List.forall_mem_cons.1 hb
    obtain ⟨p', hp⟩ := ih hb (p.after d)
    exact ⟨p', (if_pos hd).trans hp⟩

/-- Nothing is left after blanks. -/
theorem skip_blanks (hb : ∀ d ∈ b, Cursor.isBlank d = true) (p : Place) :
    (Cursor.skip ⟨p, b⟩).rest = [] := by
  induction b generalizing p with
  | nil => rfl
  | cons d b ih =>
    obtain ⟨hd, hb⟩ := List.forall_mem_cons.1 hb
    exact (congrArg Cursor.rest (if_pos hd)).trans (ih hb (p.after d))

end Blanks

/-! ## Strings -/

/-- A hexadecimal digit is read as its value. -/
theorem hexDigit?_hexChar {n : Nat} (h : n < 16) : Reader.hexDigit? (hexChar n) = some n := by
  have := (by decide : ∀ i : Fin 16, Reader.hexDigit? (hexChar i) = some i.val)
  exact this ⟨n, h⟩

/-- The escape of a control character by its code. -/
theorem escape_code {c : Char} (h : c.toNat < 0x20) (p : Place) (r : List Char) :
    ∃ p', Reader.escape ⟨p, 'u' :: '0' :: '0' :: hexChar (c.toNat / 16) ::
      hexChar (c.toNat % 16) :: r⟩ = .ok (c, ⟨p', r⟩) := by
  have hx := hexDigit?_hexChar (show c.toNat / 16 < 16 by omega)
  have hy := hexDigit?_hexChar (show c.toNat % 16 < 16 by omega)
  have hz : Reader.hexDigit? '0' = some 0 := by decide
  have hn : ((0 * 16 + 0) * 16 + c.toNat / 16) * 16 + c.toNat % 16 = c.toNat := by omega
  simp only [Reader.escape, Cursor.peek, Cursor.advance, List.head?_cons, Reader.hex4, hx, hy, hz,
    hn, bind, Except.bind]
  rw [if_neg (by omega), if_neg (by omega), Char.ofNat_toNat]
  exact ⟨_, rfl⟩

/-- A character stands for itself or is escaped, and its escape is read back. -/
theorem escape_cases (c : Char) :
    (escape c = [c] ∧ c ≠ '"' ∧ c ≠ '\\' ∧ 0x20 ≤ c.toNat) ∨
    ∃ l, escape c = '\\' :: l ∧
      ∀ p r, ∃ p', Reader.escape ⟨p, l ++ r⟩ = .ok (c, ⟨p', r⟩) := by
  by_cases hq : c = '"'
  · subst hq
    exact Or.inr ⟨['"'], rfl, fun p r => ⟨_, rfl⟩⟩
  by_cases hb : c = '\\'
  · subst hb
    exact Or.inr ⟨['\\'], rfl, fun p r => ⟨_, rfl⟩⟩
  by_cases h : 0x20 ≤ c.toNat
  · exact Or.inl ⟨escape_eq_self h hq hb, hq, hb, h⟩
  refine Or.inr ?_
  unfold escape
  rw [if_neg hq, if_neg hb]
  repeat' split
  · next hc => exact hc ▸ ⟨_, rfl, fun p r => ⟨_, rfl⟩⟩
  · next hc => exact hc ▸ ⟨_, rfl, fun p r => ⟨_, rfl⟩⟩
  · next hc => exact hc ▸ ⟨_, rfl, fun p r => ⟨_, rfl⟩⟩
  · next hc => exact hc ▸ ⟨_, rfl, fun p r => ⟨_, rfl⟩⟩
  · next hc => exact hc ▸ ⟨_, rfl, fun p r => ⟨_, rfl⟩⟩
  · exact ⟨_, rfl, escape_code (by omega)⟩
  · omega

/-- The reader of strings takes a character, and goes on with what follows it. -/
theorem string_escape (c : Char) (fuel : Nat) (p : Place) (r : List Char) :
    ∃ p', Reader.string (fuel + 1) ⟨p, escape c ++ r⟩ =
      (Reader.string fuel ⟨p', r⟩).map fun x => (c :: x.1, x.2) := by
  rcases escape_cases c with ⟨he, hq, hb, hc⟩ | ⟨l, he, hread⟩
  · refine ⟨p.after c, ?_⟩
    rw [he]
    simp only [Reader.string, List.cons_append, List.nil_append, if_neg hq, if_neg hb,
      if_neg (show ¬ c.toNat < 0x20 by omega)]
    cases Reader.string fuel ⟨p.after c, r⟩ <;> rfl
  · obtain ⟨p', hp⟩ := hread (p.after '\\') r
    refine ⟨p', ?_⟩
    rw [he]
    simp only [Reader.string, List.cons_append, if_neg (show ¬ '\\' = '"' by decide), if_true, hp]
    cases Reader.string fuel ⟨p', r⟩ <;> rfl

theorem length_escape_pos (c : Char) : 0 < (escape c).length := by
  rcases escape_cases c with ⟨he, -⟩ | ⟨l, he, -⟩ <;> simp [he]

/-- A text is read up to its closing quotation mark. -/
theorem string_quoted (s : List Char) {fuel : Nat} (h : (s.flatMap escape).length < fuel)
    (p : Place) (r : List Char) :
    ∃ p', Reader.string fuel ⟨p, s.flatMap escape ++ '"' :: r⟩ = .ok (s, ⟨p', r⟩) := by
  induction s generalizing fuel p with
  | nil =>
    obtain ⟨n, rfl⟩ := Nat.exists_eq_add_of_lt h
    exact ⟨p.after '"', by simp [Reader.string]⟩
  | cons c s ih =>
    rw [List.flatMap_cons, List.length_append] at h
    have := length_escape_pos c
    obtain ⟨n, rfl⟩ := Nat.exists_eq_add_one_of_ne_zero (show fuel ≠ 0 by omega)
    obtain ⟨p₁, h₁⟩ := string_escape c n p (s.flatMap escape ++ '"' :: r)
    obtain ⟨p₂, h₂⟩ := ih (show (s.flatMap escape).length < n by omega) p₁
    refine ⟨p₂, ?_⟩
    rw [List.flatMap_cons, List.append_assoc, h₁, h₂]
    rfl

/-! ## Numbers -/

section Numbers

variable {rest : List Char}

/-- What may follow a value: the text ends, or a comma, a bracket or a blank comes. -/
def Follows (rest : List Char) : Prop :=
  ∀ c ∈ rest.head?, c = ',' ∨ c = ']' ∨ c = '\x7d' ∨ Cursor.isBlank c = true

/-- A number does not go on with what follows a value. -/
theorem Follows.ends (h : Follows rest) : ∀ c ∈ rest.head?,
    c.isDigit = false ∧ c ≠ '.' ∧ c ≠ 'e' ∧ c ≠ 'E' := by
  intro c hc
  have hc := h c hc
  simp only [Cursor.isBlank, Bool.or_eq_true, beq_iff_eq] at hc
  rcases hc with rfl | rfl | rfl | ((rfl | rfl) | rfl) | rfl <;> decide

theorem le_ofDigitChars (ds : List Char) (n : Nat) : n ≤ Nat.ofDigitChars 10 ds n := by
  induction ds generalizing n with
  | nil => exact Nat.le_refl n
  | cons d ds ih =>
    have := ih (10 * n + (d.toNat - '0'.toNat))
    rw [Nat.ofDigitChars_cons]
    omega

/-- Digits are read as their number if it fits in 64 bits. -/
theorem digits_append {ds : List Char} (hds : ∀ c ∈ ds, c.isDigit = true) (hr : Follows rest)
    {n : Nat} (hn : Nat.ofDigitChars 10 ds n < Number.wordBound) (k : Nat) (p : Place) :
    ∃ k' p', Number.digits n k p (ds ++ rest) =
      ((Nat.ofDigitChars 10 ds n, k', false), ⟨p', rest⟩) := by
  induction ds generalizing n k p with
  | nil =>
    cases rest with
    | nil => exact ⟨k, p, rfl⟩
    | cons c r => exact ⟨k, p, if_neg (Bool.eq_false_iff.1 (hr.ends c rfl).1)⟩
  | cons d ds ih =>
    obtain ⟨hd, hds⟩ := List.forall_mem_cons.1 hds
    have hcons : Nat.ofDigitChars 10 (d :: ds) n =
        Nat.ofDigitChars 10 ds (n * 10 + Number.digitValue d) := by
      rw [Nat.ofDigitChars_cons, Nat.mul_comm]
      rfl
    rw [hcons] at hn
    obtain ⟨k', p', h⟩ := ih hds hn (k + 1) (p.after d)
    have hlt := Nat.lt_of_le_of_lt (le_ofDigitChars ds _) hn
    refine ⟨k', p', ?_⟩
    rw [List.cons_append, Number.digits, if_pos hd, if_neg (Nat.not_le_of_lt hlt), hcons, h]

theorem readAfterDigits_of_follows (hr : Follows rest) (negative : Bool) (n : Nat) (p : Place) :
    Number.readAfterDigits negative n ⟨p, rest⟩ = .ok (Number.integer negative n, ⟨p, rest⟩) := by
  have hpoint : ¬ rest.head? = some '.' := fun h => (hr.ends _ h).2.1 rfl
  have hmark : ¬ (rest.head? = some 'e' ∨ rest.head? = some 'E') := by
    rintro (h | h)
    · exact (hr.ends _ h).2.2.1 rfl
    · exact (hr.ends _ h).2.2.2 rfl
  exact (if_neg hpoint).trans (if_neg hmark)

/-- A number other than zero does not begin with a zero. -/
theorem exists_decimalDigits_cons {n : Nat} (h : n ≠ 0) :
    ∃ d ds, decimalDigits n = d :: ds ∧ d ≠ '0' := by
  unfold decimalDigits
  induction n using Nat.strongRecOn with
  | ind n ih =>
    rw [Nat.toDigits_eq_if (by decide)]
    split
    · next hn =>
      refine ⟨_, [], rfl, ?_⟩
      have := (by decide : ∀ i : Fin 10, i.val ≠ 0 → i.val.digitChar ≠ '0')
      exact this ⟨n, hn⟩ h
    · obtain ⟨d, ds, he, hd⟩ := ih (n / 10) (Nat.div_lt_self (by omega) (by decide)) (by omega)
      exact ⟨d, ds ++ [(n % 10).digitChar], by rw [he]; rfl, hd⟩

theorem isDigit_of_mem {n : Nat} {c : Char} (h : c ∈ decimalDigits n) : c.isDigit = true :=
  Nat.isDigit_of_mem_toDigits (by decide) (by decide) h

/-- A number that fits in 64 bits is read back. -/
theorem read_decimalDigits {n : Nat} (hn : n < Number.wordBound) (hr : Follows rest)
    (negative : Bool) (p : Place) : ∃ p', Number.read negative ⟨p, decimalDigits n ++ rest⟩ =
      .ok (Number.integer negative n, ⟨p', rest⟩) := by
  by_cases hzero : n = 0
  · subst hzero
    have hnone : ¬ (rest.head?.map Char.isDigit).getD false = true := by
      cases rest with
      | nil => decide
      | cons c r => exact Bool.eq_false_iff.1 (hr.ends c rfl).1
    refine ⟨p.after '0', ?_⟩
    change Number.read negative ⟨p, '0' :: rest⟩ = _
    simp only [Number.read, if_true, if_neg hnone]
    exact readAfterDigits_of_follows hr negative 0 _
  · obtain ⟨d, ds, he, hd⟩ := exists_decimalDigits_cons hzero
    have hall : ∀ c ∈ d :: ds, c.isDigit = true := fun c hc => isDigit_of_mem (n := n) (he ▸ hc)
    have hvalue : Nat.ofDigitChars 10 ds (Number.digitValue d) = n := by
      have := Nat.ofDigitChars_ten_toDigits (n := n)
      rwa [show Nat.toDigits 10 n = d :: ds from he, Nat.ofDigitChars_cons, Nat.mul_zero,
        Nat.zero_add] at this
    obtain ⟨k, p', h⟩ := digits_append (fun c hc => hall c (List.mem_cons_of_mem _ hc)) hr
      (hvalue.symm ▸ hn) 1 (p.after d)
    refine ⟨p', ?_⟩
    rw [he]
    simp only [Number.read, List.cons_append, if_neg hd, hall d (List.mem_cons_self ..), if_true, h,
      hvalue]
    exact readAfterDigits_of_follows hr negative n p'

end Numbers

theorem integer_of_neg {n : Int} (h : n < 0) (hlow : -Nat.pow 2 63 ≤ n) :
    Number.integer true n.natAbs = .integer n := by
  have hpow : Nat.pow 2 63 = 9223372036854775808 := rfl
  unfold Number.integer
  rw [if_neg (by decide), if_neg (by omega), Int.ofNat_natAbs_of_nonpos (by omega), Int.neg_neg]

theorem integer_of_nonneg {n : Int} (h : 0 ≤ n) : Number.integer false n.natAbs = .integer n := by
  unfold Number.integer
  rw [if_pos (by decide), Int.natAbs_of_nonneg h]

end UrlMask.Json
