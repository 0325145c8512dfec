import UrlMask.Proofs.Text.Span
import UrlMask.Regex.Parser

/-!
# The loops of the reader

A reader gives a value and the place where it stopped, or a fault. Most of its loops do the same:
they collect characters as long as a condition holds, and pass over blanks and comments between
them. `scan` is that loop, and the loops of escapes and repetitions are instances of it.

* `fail_ok`, `guard_ok`: when a reading succeeds.
* `scan`: collects the characters that satisfy a condition.
* `bracedName_eq`, `boundaryName_eq`, `digits_eq`, `blanks_eq`, `bracedDigits_ok`: the loops of
  the reader as scans.
-/
namespace UrlMask.Regex

/-! ## When readings succeed -/

theorem fail_bind {α β : Type} {cause : Cause} {span : Span} {f : α → Except Fault β} :
    (Cursor.fail cause span >>= f) = Cursor.fail cause span := rfl

theorem fail_ok {α : Type} {cause : Cause} {span : Span} {a : α} :
    Cursor.fail cause span = .ok a ↔ False := by
  simp [Cursor.fail]

theorem guard_ok {α : Type} {p : Prop} [Decidable p] {cause : Cause} {span : Span}
    {x : Except Fault α} {a : α} :
    (if p then Cursor.fail cause span else x) = .ok a ↔ ¬ p ∧ x = .ok a :=
  UrlMask.guard_ok

/-! ## Places -/

namespace Cursor

theorem peek_eq_some {c : Cursor} {x : Char} :
    c.peek = some x ↔ c.rest = x :: c.advance.rest := by
  obtain ⟨p, _ | ⟨y, r⟩⟩ := c <;> simp [peek, advance, eq_comm]

theorem peek_eq_none {c : Cursor} : c.peek = none ↔ c.rest = [] := by
  simp [peek]

theorem atEnd_iff {c : Cursor} : c.atEnd = true ↔ c.rest = [] := by
  simp [atEnd]

theorem advance_suffix (c : Cursor) : c.advance.rest <:+ c.rest := by
  obtain ⟨p, _ | ⟨x, r⟩⟩ := c
  · exact List.suffix_refl _
  · exact List.suffix_cons x r

theorem skipFrom_suffix (comment : Bool) (pos : Nat) (r : List Char) :
    (skipFrom comment pos r).rest <:+ r := by
  induction r generalizing comment pos with
  | nil => exact List.suffix_refl _
  | cons ch r ih =>
    have hr := List.suffix_cons ch r
    unfold skipFrom
    split
    · exact (ih _ _).trans hr
    · split
      · exact (ih _ _).trans hr
      · split
        · exact (ih _ _).trans hr
        · exact List.suffix_refl _

theorem skip_suffix (v : Bool) (c : Cursor) : (c.skip v).rest <:+ c.rest := by
  cases v
  · exact List.suffix_refl _
  · exact skipFrom_suffix false c.pos c.rest

/-- A character that is neither a blank nor opens a comment is not passed over. -/
theorem skip_of_peek {c : Cursor} {x : Char} (h : c.peek = some x) (hb : Text.isBlank x = false)
    (hn : x ≠ '#') (v : Bool) : c.skip v = c := by
  obtain ⟨p, _ | ⟨y, r⟩⟩ := c
  · cases h
  · cases Option.some.inj h
    simp [skip, skipFrom, hb, hn]

theorem advanceSkip_suffix (v : Bool) (c : Cursor) : (c.advanceSkip v).rest <:+ c.rest :=
  (skip_suffix v c.advance).trans c.advance_suffix

theorem advanceSkip_suffix_advance (v : Bool) (c : Cursor) :
    (c.advanceSkip v).rest <:+ c.advance.rest :=
  skip_suffix v c.advance

theorem advance_suffix_advance {c d : Cursor} {x : Char} (hd : d.peek = some x)
    (h : d.rest <:+ c.rest) : d.advance.rest <:+ c.advance.rest := by
  obtain ⟨p, _ | ⟨y, r⟩⟩ := c
  · rw [peek_eq_some.1 hd, List.suffix_nil] at h
    cases h
  · rw [peek_eq_some.1 hd, List.suffix_cons_iff] at h
    rcases h with h | h
    · exact (List.cons.inj h).2 ▸ List.suffix_refl _
    · exact (List.suffix_cons x _).trans h

/-- Past a character less is left. -/
theorem advance_lt {c : Cursor} {x : Char} (h : c.peek = some x) :
    c.advance.rest.length < c.rest.length := by
  rw [peek_eq_some.1 h, List.length_cons]
  exact Nat.lt_succ_self _

theorem advanceSkip_lt {c : Cursor} {x : Char} (v : Bool) (h : c.peek = some x) :
    (c.advanceSkip v).rest.length < c.rest.length :=
  Nat.lt_of_le_of_lt (advanceSkip_suffix_advance v c).length_le (advance_lt h)

theorem eat?_eq_some {word : String} {c d : Cursor} :
    c.eat? word = some d ↔ c.rest = word.toList ++ d.rest ∧ d.pos = c.pos + word.toList.length := by
  unfold eat?
  generalize word.toList = w
  induction w generalizing c with
  | nil =>
    obtain ⟨p, r⟩ := c
    obtain ⟨q, s⟩ := d
    simp [eat?.go, and_comm, eq_comm]
  | cons x w ih =>
    obtain ⟨p, _ | ⟨y, r⟩⟩ := c
    · simp [eat?.go]
    · unfold eat?.go
      split
      · next h =>
        subst h
        rw [ih]
        simp only [List.cons_append, List.cons.injEq, true_and, List.length_cons]
        constructor
        · rintro ⟨h₁, h₂⟩; exact ⟨h₁, by omega⟩
        · rintro ⟨h₁, h₂⟩; exact ⟨h₁, by omega⟩
      · next h =>
        simp only [List.cons_append, List.cons.injEq]
        constructor
        · intro h'; cases h'
        · rintro ⟨⟨h', -⟩, -⟩; exact absurd h'.symm h

end Cursor

/-! ## Scans -/

/-- The characters from here on that satisfy `p`, and the place after them. Blanks and comments
after each are passed over in a verbose pattern. -/
def scan (p : Char → Bool) (v : Bool) : Nat → Cursor → List Char × Cursor
  | 0, c => ([], c)
  | fuel + 1, c =>
    match c.peek with
    | some ch =>
      if p ch then
        let (s, d) := scan p v fuel (c.advanceSkip v)
        (ch :: s, d)
      else ([], c)
    | none => ([], c)

theorem scan_suffix (p : Char → Bool) (v : Bool) (fuel : Nat) (c : Cursor) :
    (scan p v fuel c).2.rest <:+ c.rest := by
  induction fuel generalizing c with
  | zero => exact List.suffix_refl _
  | succ fuel ih =>
    unfold scan
    split
    · split
      · exact (ih _).trans (c.advanceSkip_suffix v)
      · exact List.suffix_refl _
    · exact List.suffix_refl _

theorem suffix_of_scan {p : Char → Bool} {v : Bool} {fuel : Nat} {c d : Cursor} {s : List Char}
    (h : scan p v fuel c = (s, d)) : d.rest <:+ c.rest := by
  have := scan_suffix p v fuel c
  rwa [h] at this

/-- Where a scan with enough fuel stops, the condition fails. -/
theorem scan_stop {p : Char → Bool} {v : Bool} {fuel : Nat} {c : Cursor}
    (hf : c.rest.length ≤ fuel) {x : Char} (h : (scan p v fuel c).2.peek = some x) :
    p x = false := by
  induction fuel generalizing c with
  | zero =>
    have : c.rest = [] := List.eq_nil_of_length_eq_zero (Nat.le_zero.1 hf)
    simp [scan, Cursor.peek, this] at h
  | succ fuel ih =>
    unfold scan at h
    split at h
    · next ch hc =>
      have := Cursor.advanceSkip_lt v hc
      split at h
      · exact ih (by omega) h
      · next hp =>
        rw [hc, Option.some.injEq] at h
        simpa [h] using hp
    · next hc => rw [hc] at h; cases h

namespace Escape

theorem bracedName_eq (v : Bool) (fuel : Nat) (c : Cursor) :
    bracedName v fuel c = scan (· != '\x7d') v fuel c := by
  induction fuel generalizing c with
  | zero => rfl
  | succ fuel ih =>
    unfold bracedName scan
    cases c.peek with
    | none => rfl
    | some ch => by_cases h : ch = '\x7d' <;> simp [h, ih]

theorem boundaryName_eq (v : Bool) (fuel : Nat) (c : Cursor) :
    boundaryName v fuel c = scan isBoundaryChar v fuel c := by
  induction fuel generalizing c with
  | zero => rfl
  | succ fuel ih =>
    unfold boundaryName scan
    cases c.peek with
    | none => rfl
    | some ch => simp [ih]

/-- The digits of a braced escape are those up to the closing brace. -/
theorem bracedDigits_ok {v : Bool} {fuel : Nat} {c d : Cursor} {ds : List Char}
    (hf : c.rest.length ≤ fuel) :
    bracedDigits v fuel c = .ok (ds, d) ↔
      scan isHexDigit v fuel c = (ds, d) ∧ (d.rest = [] ∨ d.peek = some '\x7d') := by
  induction fuel generalizing c ds with
  | zero =>
    have hc : c.rest = [] := List.eq_nil_of_length_eq_zero (Nat.le_zero.1 hf)
    simp only [bracedDigits, scan, Except.ok.injEq, Prod.mk.injEq]
    constructor
    · rintro ⟨rfl, rfl⟩; exact ⟨⟨rfl, rfl⟩, .inl hc⟩
    · rintro ⟨h, -⟩; exact h
  | succ fuel ih =>
    have stop (h : c.rest = [] ∨ c.peek = some '\x7d') : (([] : List Char), c) = (ds, d) ↔
        ([], c) = (ds, d) ∧ (d.rest = [] ∨ d.peek = some '\x7d') := by
      simp only [Prod.mk.injEq]
      exact ⟨fun ⟨hs, hd⟩ => ⟨⟨hs, hd⟩, hd ▸ h⟩, fun h => h.1⟩
    unfold bracedDigits scan
    cases hp : c.peek with
    | none =>
      simp only [Except.ok.injEq]
      exact stop (.inl (Cursor.peek_eq_none.1 hp))
    | some ch =>
      have hlt := Cursor.advanceSkip_lt v hp
      simp only
      by_cases hb : ch = '\x7d'
      · subst hb
        rw [if_pos rfl, if_neg (by decide), Except.ok.injEq]
        exact stop (.inr hp)
      · rw [if_neg hb]
        by_cases hx : isHexDigit ch = true
        · rw [if_pos hx, if_pos hx]
          simp only [bind_ok, Prod.exists, Except.ok.injEq, Prod.mk.injEq]
          constructor
          · rintro ⟨s, e, h, rfl, rfl⟩
            obtain ⟨h, hd⟩ := (ih (by omega)).1 h
            rw [h]
            exact ⟨⟨rfl, rfl⟩, hd⟩
          · rintro ⟨⟨rfl, rfl⟩, hd⟩
            exact ⟨_, _, (ih (by omega)).2 ⟨rfl, hd⟩, rfl, rfl⟩
        · rw [if_neg hx, if_neg hx]
          simp only [fail_ok, Prod.mk.injEq, false_iff, not_and]
          rintro ⟨-, rfl⟩ (h | h)
          · rw [Cursor.peek_eq_none.2 h] at hp; cases hp
          · rw [hp] at h; exact hb (Option.some.inj h)

end Escape

namespace Parser

theorem digits_eq (v : Bool) (fuel : Nat) (c : Cursor) :
    digits v fuel c = scan Char.isDigit v fuel c := by
  induction fuel generalizing c with
  | zero => rfl
  | succ fuel ih =>
    unfold digits scan
    cases c.peek with
    | none => rfl
    | some ch => simp [ih]

theorem blanks_eq (v : Bool) (fuel : Nat) (c : Cursor) :
    blanks v fuel c = (scan Text.isBlank v fuel c).2 := by
  induction fuel generalizing c with
  | zero => rfl
  | succ fuel ih =>
    unfold blanks scan
    cases c.peek with
    | none => rfl
    | some ch => by_cases h : Text.isBlank ch <;> simp [h, ih]

end Parser

end UrlMask.Regex
