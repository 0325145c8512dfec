import UrlMask.Mask.Layout
import UrlMask.Proofs.Regex.Run

/-!
# Literal text in a regex

Outside its sections a mask is literal text. In the regex of the mask every character of it is
written so that the reader takes it for itself, whatever follows.

* `hexValue_hexDigits`: a number is the value of its hexadecimal digits.
* `read_escapeChar`: a character is read back.
-/
namespace UrlMask

open Regex Regex.Parser

/-! ## Hexadecimal numbers -/

theorem hexDigit_digitChar : ∀ d : Fin 16, isHexDigit (Nat.digitChar d) = true ∧
    hexDigit (Nat.digitChar d) = d := by
  decide

theorem hexDigit_hexChar : ∀ d : Fin 16, isHexDigit (Json.hexChar d) = true ∧
    hexDigit (Json.hexChar d) = d := by
  decide

theorem hexValue_append (ds : List Char) (d : Char) :
    hexValue (ds ++ [d]) = hexValue ds * 16 + hexDigit d := by
  simp only [hexValue, List.foldl_append, List.foldl_cons, List.foldl_nil]

/-- A number is the value of its hexadecimal digits. -/
theorem hexValue_hexDigits (n : Nat) : hexValue (Layout.hexDigits n) = n ∧
    ∀ d ∈ Layout.hexDigits n, isHexDigit d = true := by
  unfold Layout.hexDigits
  induction n using Nat.strongRecOn with
  | ind n ih =>
    by_cases h : n < 16
    · have hd := hexDigit_digitChar ⟨n, h⟩
      rw [Nat.toDigits_of_lt_base h]
      exact ⟨by simpa [hexValue] using hd.2, by simpa using hd.1⟩
    · have hd := hexDigit_digitChar ⟨n % 16, Nat.mod_lt _ (by decide)⟩
      obtain ⟨hv, hx⟩ := ih (n / 16) (by omega)
      rw [Nat.toDigits_of_base_le (by decide) (by omega), hexValue_append, hv]
      refine ⟨by rw [hd.2]; simp only; omega, fun d hm => ?_⟩
      rcases List.mem_append.1 hm with hm | hm
      · exact hx d hm
      · cases List.mem_singleton.1 hm
        exact hd.1

theorem scalar?_toNat (c : Char) : scalar? c.toNat = some c := by
  have hv : c.toNat.isValidChar := c.valid
  rw [scalar?, if_pos hv, Char.ofNat_toNat]

/-- A scan passes exactly what satisfies the condition. -/
theorem scan_append {p : Char → Bool} {ds : List Char} (hp : ∀ d ∈ ds, p d = true) {y : Char}
    (hy : p y = false) {n : Nat} (hf : ds.length < n) (q : Nat) (r : List Char) :
    scan p false n ⟨q, ds ++ y :: r⟩ = (ds, ⟨q + ds.length, y :: r⟩) := by
  induction ds generalizing n q with
  | nil => exact scan_of_stop (fun x hx => by cases hx; exact hy) false n
  | cons d ds ih =>
    obtain _ | n := n
    · cases hf
    · rw [List.forall_mem_cons] at hp
      have ih := ih hp.2 (n := n) (by simpa using hf) (q + 1)
      simp only [List.cons_append, scan, Cursor.peek, List.head?_cons, hp.1, if_true,
        Cursor.advanceSkip, Cursor.advance, Cursor.skip, Bool.false_eq_true, if_false, ih,
        List.length_cons]
      simp only [Prod.mk.injEq, Cursor.mk.injEq, true_and, and_true]
      omega

/-! ## Characters -/

/-- The tree that a character of literal text is read as. -/
def Layout.charTree (c : Char) : Ast :=
  .literal ⟨.none, c, !c.isAlphanum && decide (c.toNat ≤ 0xFF)⟩

theorem read_alphanum {c : Char} (h : c.isAlphanum = true) (cur : Cursor) :
    isSymbol c = true ∧
      Symbol.read false c cur = .ok (.literal ⟨cur.charSpan, c, false⟩, cur.advance) := by
  have ne (x : Char) (hx : x.isAlphanum = false) : c ≠ x := by
    rintro rfl
    rw [hx] at h
    cases h
  refine ⟨?_, ?_⟩
  · have hm : c ∉ ['(', ')', '|', '[', '?', '*', '+', '\x7b'] := by
      simp only [List.mem_cons, List.not_mem_nil, not_or, or_false]
      exact ⟨ne _ (by decide), ne _ (by decide), ne _ (by decide), ne _ (by decide),
        ne _ (by decide), ne _ (by decide), ne _ (by decide), ne _ (by decide)⟩
    rw [isSymbol, Bool.not_eq_true', List.contains_eq_mem, decide_eq_false_iff_not]
    exact hm
  · rw [Symbol.read_eq, if_neg (ne _ (by decide))]
    unfold Symbol.ofChar
    split
    · exact absurd rfl (ne _ (by decide))
    · exact absurd rfl (ne _ (by decide))
    · exact absurd rfl (ne _ (by decide))
    · rfl

/-- Two hexadecimal digits name a character. -/
theorem read_byte {c : Char} (h : c.toNat ≤ 0xFF) (p : Nat) (r : List Char) : ∃ s d,
    Symbol.read false '\\' ⟨p, '\\' :: 'x' :: Json.hexChar (c.toNat / 16) ::
      Json.hexChar (c.toNat % 16) :: r⟩ = .ok (.literal ⟨s, c, true⟩, d) ∧ d.rest = r := by
  obtain ⟨hx₁, hv₁⟩ := hexDigit_hexChar ⟨c.toNat / 16, by omega⟩
  obtain ⟨hx₂, hv₂⟩ := hexDigit_hexChar ⟨c.toNat % 16, by omega⟩
  simp only at hx₁ hv₁ hx₂ hv₂
  generalize Json.hexChar (c.toNat / 16) = a at *
  generalize Json.hexChar (c.toNat % 16) = b at *
  have hfix : Escape.fixedDigits false 2 ⟨p + 2, a :: b :: r⟩ = .ok ([a, b], ⟨p + 4, r⟩) :=
    Escape.fixedDigits_succ_ok.2 ⟨a, [b], rfl, hx₁, Escape.fixedDigits_succ_ok.2
      ⟨b, [], rfl, hx₂, rfl, rfl⟩, rfl⟩
  have ha : a ≠ '\x7b' := by
    rintro rfl
    revert hx₁
    decide
  have hval : scalar? (hexValue [a, b]) = some c := by
    have : hexValue [a, b] = c.toNat := by
      simp only [hexValue, List.foldl_cons, List.foldl_nil, hv₁, hv₂]
      omega
    rw [this, scalar?_toNat]
  have hhex : Escape.hex false p 'x' ⟨p + 1, 'x' :: a :: b :: r⟩ =
      .ok (.literal ⟨⟨p, p + 4⟩, c, true⟩, ⟨p + 4, r⟩) :=
    Escape.hex_ok.2 (.inr ⟨fun h => ha (Option.some.inj h), [a, b], c, hfix, hval, rfl⟩)
  have hread : Escape.read false ⟨p, '\\' :: 'x' :: a :: b :: r⟩ =
      .ok (.literal ⟨⟨p, p + 4⟩, c, true⟩, ⟨p + 4, r⟩) :=
    Escape.read_ok.2 (.hex rfl (by decide) (.inl rfl) hhex)
  exact ⟨_, _, hread, rfl⟩

/-- Hexadecimal digits in braces name a character. -/
theorem read_braced (c : Char) (p : Nat) (r : List Char) : ∃ s d,
    Symbol.read false '\\' ⟨p, '\\' :: 'x' :: '\x7b' :: (Layout.hexDigits c.toNat ++ '\x7d' :: r)⟩ =
      .ok (.literal ⟨s, c, false⟩, d) ∧ d.rest = r := by
  obtain ⟨hv, hx⟩ := hexValue_hexDigits c.toNat
  have hne : Layout.hexDigits c.toNat ≠ [] := Nat.toDigits_ne_nil
  generalize Layout.hexDigits c.toNat = ds at *
  have hscan := scan_append hx (y := '\x7d') (by decide) (n := (ds ++ '\x7d' :: r).length + 1)
    (by simp only [List.length_append, List.length_cons]; omega) (p + 3) r
  have hval : scalar? (hexValue ds) = some c := by rw [hv, scalar?_toNat]
  have hhex : Escape.hex false p 'x' ⟨p + 1, 'x' :: '\x7b' :: (ds ++ '\x7d' :: r)⟩ =
      .ok (.literal ⟨⟨p, p + 3 + ds.length + 1⟩, c, false⟩, ⟨p + 3 + ds.length + 1, r⟩) :=
    Escape.hex_ok.2 (.inl ⟨rfl, ds, _, c, hscan, rfl, hne, hval, rfl, rfl⟩)
  have hread : Escape.read false ⟨p, '\\' :: 'x' :: '\x7b' :: (ds ++ '\x7d' :: r)⟩ =
      .ok (.literal ⟨⟨p, p + 3 + ds.length + 1⟩, c, false⟩, ⟨p + 3 + ds.length + 1, r⟩) :=
    Escape.read_ok.2 (.hex rfl (by decide) (.inl rfl) hhex)
  exact ⟨_, _, hread, rfl⟩

/-- A character is read as itself, whatever follows. -/
theorem read_escapeChar (c : Char) (p : Nat) (r : List Char) : ∃ ch x d,
    (⟨p, Layout.escapeChar c ++ r⟩ : Cursor).peek = some ch ∧ isSymbol ch = true ∧
      Symbol.read false ch ⟨p, Layout.escapeChar c ++ r⟩ = .ok (x, d) ∧ d.rest = r ∧
      x.toAst.bare = Layout.charTree c := by
  unfold Layout.escapeChar Layout.charTree
  split
  · next h =>
    obtain ⟨hs, hr⟩ := read_alphanum h ⟨p, c :: r⟩
    exact ⟨c, _, _, rfl, hs, hr, rfl, by simp [h, Symbol.toAst, Ast.bare, Literal.bare]⟩
  · next h =>
    split
    · next hb =>
      obtain ⟨s, d, hr, hd⟩ := read_byte hb p r
      exact ⟨'\\', _, d, rfl, by decide, hr, hd, by
        simp [h, hb, Symbol.toAst, Ast.bare, Literal.bare]⟩
    · next hb =>
      obtain ⟨s, d, hr, hd⟩ := read_braced c p r
      exact ⟨'\\', _, d, rfl, by decide, by simpa using hr, hd, by
        simp [hb, Symbol.toAst, Ast.bare, Literal.bare]⟩

end UrlMask
