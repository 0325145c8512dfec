import UrlMask.Proofs.Regex.Bare
import UrlMask.Proofs.Regex.Swap

/-!
# How symbols are read

For each reader of escapes this says exactly when it succeeds and with what, that it leaves an
end of what it was given, and that it does not see beyond the place where it stops.

* `Escape.hex_ok`, `Escape.property_ok`, `Escape.namedBoundary_ok`, `Escape.read_ok`: when the
  readers succeed.
* `Symbol.read_suffix`, `Symbol.readInClass_suffix`: what is left.
* `Symbol.read_swap`, `Symbol.readInClass_swap`: the same symbol is read before other ends.
-/
namespace UrlMask.Regex

namespace Escape

/-! ## Hexadecimal escapes -/

theorem fixedDigits_succ_ok {v : Bool} {n : Nat} {c d : Cursor} {ds : List Char} :
    fixedDigits v (n + 1) c = .ok (ds, d) ↔ ∃ ch s, c.peek = some ch ∧ isHexDigit ch = true ∧
      fixedDigits v n (c.advanceSkip v) = .ok (s, d) ∧ ds = ch :: s := by
  rw [fixedDigits]
  cases hc : c.peek with
  | none => simp [fail_ok]
  | some ch =>
    by_cases hx : isHexDigit ch = true
    · simp only [hx, if_true, bind_ok, Prod.exists, Except.ok.injEq, Prod.mk.injEq,
        Option.some.injEq]
      constructor
      · rintro ⟨s, d, h, rfl, rfl⟩; exact ⟨ch, s, rfl, hx, h, rfl⟩
      · rintro ⟨ch, s, rfl, -, h, rfl⟩; exact ⟨s, d, h, rfl, rfl⟩
    · simp only [hx, if_false, fail_ok, Option.some.injEq, false_iff, Bool.false_eq_true]
      rintro ⟨ch, s, rfl, h, -⟩
      exact hx h

theorem fixedDigits_suffix {v : Bool} {n : Nat} {c d : Cursor} {ds : List Char}
    (h : fixedDigits v n c = .ok (ds, d)) : d.rest <:+ c.rest := by
  induction n generalizing c ds with
  | zero => cases h; exact List.suffix_refl _
  | succ n ih =>
    obtain ⟨ch, s, -, -, h, -⟩ := fixedDigits_succ_ok.1 h
    exact (ih h).trans (c.advanceSkip_suffix v)

theorem digitCount_pos (c : Char) : ∃ n, digitCount c = n + 1 := by
  unfold digitCount
  split
  · exact ⟨1, rfl⟩
  · split
    · exact ⟨3, rfl⟩
    · exact ⟨7, rfl⟩

theorem hex_ok {v : Bool} {start : Nat} {letter : Char} {c d : Cursor} {x : Symbol} :
    hex v start letter c = .ok (x, d) ↔
      ((c.advanceSkip v).peek = some '\x7b' ∧ ∃ ds c₁ ch,
        scan isHexDigit v (c.advanceSkip v).rest.length ((c.advanceSkip v).advanceSkip v) =
          (ds, c₁) ∧
        c₁.peek = some '\x7d' ∧ ds ≠ [] ∧ scalar? (hexValue ds) = some ch ∧
        d = c₁.advanceSkip v ∧ x = .literal ⟨d.spanFrom start, ch, false⟩) ∨
      ((c.advanceSkip v).peek ≠ some '\x7b' ∧ ∃ ds ch,
        fixedDigits v (digitCount letter) (c.advanceSkip v) = .ok (ds, d) ∧
        scalar? (hexValue ds) = some ch ∧ x = .literal ⟨d.spanFrom start, ch, letter == 'x'⟩) := by
  unfold hex
  dsimp only
  cases hc : (c.advanceSkip v).peek with
  | none =>
    obtain ⟨n, hn⟩ := digitCount_pos letter
    simp [fail_ok, hn, fixedDigits_succ_ok, hc]
  | some y =>
    by_cases hy : y = '\x7b'
    · subst hy
      have hf := Nat.le_of_lt (Cursor.advanceSkip_lt v hc)
      simp only [bind_ok, guard_ok, Prod.exists, bracedDigits_ok hf]
      constructor
      · rintro ⟨ds, c₁, ⟨hs, hb⟩, he, hd, h⟩
        cases hv : scalar? (hexValue ds) with
        | none => rw [hv] at h; cases h
        | some ch =>
          rw [hv] at h
          cases h
          refine .inl ⟨trivial, ds, c₁, ch, hs, hb.resolve_left fun h => he ?_, ?_, hv, rfl, rfl⟩
          · simpa [Cursor.atEnd] using h
          · simpa using hd
      · rintro (⟨-, ds, c₁, ch, hs, hb, hd, hv, rfl, rfl⟩ | ⟨hne, -⟩)
        · refine ⟨ds, c₁, ⟨hs, .inr hb⟩, ?_, by simpa using hd, by rw [hv]⟩
          rw [Cursor.atEnd_iff, ← Cursor.peek_eq_none, hb]
          exact Option.some_ne_none _
        · exact absurd rfl hne
    · split
      · next h => cases h
      · next h => exact absurd (Option.some.inj h) hy
      · simp only [bind_ok, Prod.exists]
        constructor
        · rintro ⟨ds, e, hs, h⟩
          cases hv : scalar? (hexValue ds) with
          | none => rw [hv] at h; cases h
          | some ch =>
            rw [hv] at h
            cases h
            exact .inr ⟨fun h => hy (Option.some.inj h), ds, ch, hs, hv, rfl⟩
        · rintro (⟨h, -⟩ | ⟨-, ds, ch, hs, hv, rfl⟩)
          · exact absurd (Option.some.inj h) hy
          · exact ⟨ds, d, hs, by rw [hv]⟩

theorem hex_suffix {v : Bool} {start : Nat} {letter : Char} {c d : Cursor} {x : Symbol}
    (h : hex v start letter c = .ok (x, d)) : d.rest <:+ c.advance.rest := by
  refine List.IsSuffix.trans ?_ (c.advanceSkip_suffix_advance v)
  rcases hex_ok.1 h with ⟨-, ds, c₁, ch, hs, -, -, -, rfl, -⟩ | ⟨-, ds, ch, hs, -⟩
  · exact (c₁.advanceSkip_suffix v).trans
      ((suffix_of_scan hs).trans (Cursor.advanceSkip_suffix v _))
  · exact fixedDigits_suffix hs

/-! ## Properties -/

theorem property_ok {v : Bool} {start : Nat} {negated : Bool} {c d : Cursor} {x : Symbol} :
    property v start negated c = .ok (x, d) ↔
      ((c.advanceSkip v).peek = some '\x7b' ∧ ∃ s c₁,
        scan (· != '\x7d') v (c.advanceSkip v).rest.length ((c.advanceSkip v).advanceSkip v) =
          (s, c₁) ∧
        c₁.peek = some '\x7d' ∧ d = c₁.advance ∧
        x = .property ⟨d.spanFrom start, negated != isUnequal s, queryOf s⟩) ∨
      (∃ ch, (c.advanceSkip v).peek = some ch ∧ ch ≠ '\x7b' ∧ ch ≠ '\\' ∧
        d = (c.advanceSkip v).advanceSkip v ∧
        x = .property ⟨d.spanFrom start, negated, .name (String.singleton ch)⟩) := by
  unfold property
  dsimp only
  split
  · next hc => simp [fail_ok, hc]
  · next hc =>
    have hf := Nat.le_of_lt (Cursor.advanceSkip_lt v hc)
    rw [bracedName_eq, hc]
    simp only [guard_ok, Except.ok.injEq, Prod.mk.injEq]
    constructor
    · rintro ⟨he, rfl, rfl⟩
      refine .inl ⟨trivial, _, _, rfl, ?_, rfl, rfl⟩
      cases hp : (scan (· != '\x7d') v (c.advanceSkip v).rest.length
        ((c.advanceSkip v).advanceSkip v)).2.peek with
      | none => exact absurd (Cursor.atEnd_iff.2 (Cursor.peek_eq_none.1 hp)) he
      | some y => simpa using scan_stop hf hp
    · rintro (⟨-, s, c₁, hs, hb, rfl, rfl⟩ | ⟨ch, h, hne, -⟩)
      · rw [hs, Cursor.atEnd_iff, ← Cursor.peek_eq_none, hb]
        exact ⟨Option.some_ne_none _, rfl, rfl⟩
      · exact absurd (Option.some.inj h).symm hne
  · next hc => simp [fail_ok, hc]
  · next ch h₁ h₂ hc =>
    simp only [hc, Except.ok.injEq, Prod.mk.injEq, Option.some.injEq]
    constructor
    · rintro ⟨rfl, rfl⟩
      exact .inr ⟨ch, rfl, fun h => h₁ h, fun h => h₂ h, rfl, rfl⟩
    · rintro (⟨h, -⟩ | ⟨ch, rfl, -, -, rfl, rfl⟩)
      · exact absurd h h₁
      · exact ⟨rfl, rfl⟩

theorem property_suffix {v : Bool} {start : Nat} {negated : Bool} {c d : Cursor} {x : Symbol}
    (h : property v start negated c = .ok (x, d)) : d.rest <:+ c.advance.rest := by
  refine List.IsSuffix.trans ?_ (c.advanceSkip_suffix_advance v)
  rcases property_ok.1 h with ⟨-, s, c₁, hs, -, rfl, -⟩ | ⟨ch, -, -, -, rfl, -⟩
  · exact c₁.advance_suffix.trans ((suffix_of_scan hs).trans (Cursor.advanceSkip_suffix v _))
  · exact Cursor.advanceSkip_suffix v _

/-! ## Word boundaries -/

/-- The word boundary of a name between braces. -/
def boundaryOf : String → Option Assertion
  | "start" => some .wordStart
  | "end" => some .wordEnd
  | "start-half" => some .wordStartHalf
  | "end-half" => some .wordEndHalf
  | _ => none

/-- The reader of braces, with the names taken together. -/
theorem namedBoundary_eq (v : Bool) (start : Nat) (c : Cursor) :
    namedBoundary v start c = match (c.advanceSkip v).peek with
      | none => Cursor.fail .wordBoundaryOrCountUnexpectedEnd ((c.advanceSkip v).spanFrom start)
      | some ch =>
        if isBoundaryChar ch = false then .ok none
        else
          let sc := scan isBoundaryChar v (c.advanceSkip v).rest.length (c.advanceSkip v)
          if ¬ sc.2.peek = some '\x7d' then
            Cursor.fail .wordBoundaryUnclosed (sc.2.spanFrom c.pos)
          else
            match boundaryOf (String.ofList sc.1) with
            | some a => .ok (some (a, sc.2.advance))
            | none =>
              Cursor.fail .wordBoundaryUnrecognized (sc.2.spanFrom (c.advanceSkip v).pos) := by
  unfold namedBoundary
  dsimp only
  cases (c.advanceSkip v).peek with
  | none => rfl
  | some ch =>
    simp only [boundaryName_eq, Bool.not_eq_true', bne_iff_ne, ne_eq]
    congr 2
    generalize String.ofList _ = name
    unfold boundaryOf
    split <;> simp only

theorem namedBoundary_ok {v : Bool} {start : Nat} {c : Cursor} {r : Option (Assertion × Cursor)} :
    namedBoundary v start c = .ok r ↔ ∃ ch, (c.advanceSkip v).peek = some ch ∧
      ((isBoundaryChar ch = false ∧ r = none) ∨ (isBoundaryChar ch = true ∧ ∃ s c₁ a,
        scan isBoundaryChar v (c.advanceSkip v).rest.length (c.advanceSkip v) = (s, c₁) ∧
        c₁.peek = some '\x7d' ∧ boundaryOf (String.ofList s) = some a ∧
        r = some (a, c₁.advance))) := by
  rw [namedBoundary_eq]
  generalize scan isBoundaryChar v (c.advanceSkip v).rest.length (c.advanceSkip v) = sc
  obtain ⟨s, c₁⟩ := sc
  dsimp only
  cases (c.advanceSkip v).peek with
  | none => simp [fail_ok]
  | some ch =>
    simp only [Option.some.injEq, exists_eq_left']
    cases isBoundaryChar ch with
    | false =>
      simp only [if_true, Except.ok.injEq, true_and, Bool.false_eq_true, false_and, or_false]
      exact eq_comm
    | true =>
      rw [if_neg (by decide), guard_ok, Decidable.not_not]
      simp only [Bool.true_eq_false, false_and, false_or, true_and]
      constructor
      · rintro ⟨hp, h⟩
        split at h
        · next a ha =>
          cases h
          exact ⟨s, c₁, a, rfl, hp, ha, rfl⟩
        · cases h
      · rintro ⟨_, _, a, ⟨⟩, hp, ha, rfl⟩
        exact ⟨hp, by rw [ha]⟩

/-! ## Escapes -/

/-- The symbol that a letter after a backslash stands for by itself. -/
def ofLetter (ch : Char) (span : Span) : Option Symbol :=
  match shorthand ch with
  | some (kind, negated) => some (.shorthand ⟨span, kind, negated⟩)
  | none =>
    if isEscapable ch then some (.literal ⟨span, ch, false⟩)
    else
      match controlChar ch with
      | some k => some (.literal ⟨span, k, false⟩)
      | none => (assertion ch).map (.assertion span)

/-- The escape at `c` is read as `x`, up to `d`. -/
inductive Reads (v : Bool) (c : Cursor) : Symbol → Cursor → Prop
  | hex {ch x d} : c.advance.peek = some ch → ch.isDigit = false → ch = 'x' ∨ ch = 'u' ∨ ch = 'U' →
    hex v c.pos ch c.advance = .ok (x, d) → Reads v c x d
  | property {ch x d} : c.advance.peek = some ch → ch.isDigit = false → ch = 'p' ∨ ch = 'P' →
    property v c.pos (ch == 'P') c.advance = .ok (x, d) → Reads v c x d
  | letter {ch x} : c.advance.peek = some ch → ch.isDigit = false →
    ¬ (ch = 'x' ∨ ch = 'u' ∨ ch = 'U') → ¬ (ch = 'p' ∨ ch = 'P') →
    ofLetter ch (c.advance.advance.spanFrom c.pos) = some x → Reads v c x c.advance.advance
  | word : c.advance.peek = some 'b' → c.advance.advance.peek ≠ some '\x7b' →
    Reads v c (.assertion (c.advance.advance.spanFrom c.pos) .word) c.advance.advance
  | brace : c.advance.peek = some 'b' → c.advance.advance.peek = some '\x7b' →
    namedBoundary v c.pos c.advance.advance = .ok none →
    Reads v c (.assertion (c.advance.advance.spanFrom c.pos) .word) c.advance.advance
  | named {a d} : c.advance.peek = some 'b' → c.advance.advance.peek = some '\x7b' →
    namedBoundary v c.pos c.advance.advance = .ok (some (a, d)) →
    Reads v c (.assertion (d.spanFrom c.pos) a) d

/-- The reader of escapes, with the one-letter escapes taken together. -/
theorem read_eq (v : Bool) (c : Cursor) :
    read v c = match c.advance.peek with
      | none => Cursor.fail .escapeUnexpectedEnd (c.advance.spanFrom c.pos)
      | some ch =>
        if ch.isDigit then Cursor.fail .backreference (c.advance.advance.spanFrom c.pos)
        else if ch = 'x' ∨ ch = 'u' ∨ ch = 'U' then hex v c.pos ch c.advance
        else if ch = 'p' ∨ ch = 'P' then property v c.pos (ch == 'P') c.advance
        else
          match ofLetter ch (c.advance.advance.spanFrom c.pos) with
          | some x => .ok (x, c.advance.advance)
          | none =>
            if ch = 'b' then
              if c.advance.advance.peek = some '\x7b' then
                namedBoundary v c.pos c.advance.advance >>= fun
                  | some (a, d) => .ok (.assertion (d.spanFrom c.pos) a, d)
                  | none =>
                    .ok (.assertion (c.advance.advance.spanFrom c.pos) .word, c.advance.advance)
              else .ok (.assertion (c.advance.advance.spanFrom c.pos) .word, c.advance.advance)
            else Cursor.fail .escapeUnrecognized (c.advance.advance.spanFrom c.pos) := by
  unfold read ofLetter
  dsimp only
  cases c.advance.peek with
  | none => rfl
  | some ch =>
    dsimp only
    cases shorthand ch with
    | some k => rfl
    | none =>
      by_cases he : isEscapable ch = true
      · simp only [he, if_true]
      · simp only [he, Bool.false_eq_true, if_false]
        cases controlChar ch with
        | some k => rfl
        | none =>
          cases assertion ch with
          | some a => rfl
          | none => rfl

theorem read_ok {v : Bool} {c d : Cursor} {x : Symbol} :
    read v c = .ok (x, d) ↔ Reads v c x d := by
  rw [read_eq]
  constructor
  · intro h
    split at h
    · cases h
    · next ch hc =>
      simp only [guard_ok, Bool.not_eq_true] at h
      obtain ⟨hd, h⟩ := h
      split at h
      · next hx => exact .hex hc hd hx h
      · next hx =>
        split at h
        · next hp => exact .property hc hd hp h
        · next hp =>
          split at h
          · next hl => cases h; exact .letter hc hd hx hp hl
          · next hl =>
            split at h
            · next hb =>
              subst hb
              split at h
              · next hbr =>
                obtain ⟨_ | ⟨a, e⟩, hn, h⟩ := bind_ok.1 h
                · cases h; exact .brace hc hbr hn
                · cases h; exact .named hc hbr hn
              · next hbr => cases h; exact .word hc hbr
            · cases h
  · have hb : ofLetter 'b' (c.advance.advance.spanFrom c.pos) = none := rfl
    intro h
    cases h with
    | hex hc hd hx h => simp only [hc, hd, Bool.false_eq_true, if_false, if_pos hx, h]
    | @property ch x d hc hd hp h =>
      have hx : ¬ (ch = 'x' ∨ ch = 'u' ∨ ch = 'U') := by rcases hp with rfl | rfl <;> decide
      simp only [hc, hd, Bool.false_eq_true, if_false, if_neg hx, if_pos hp, h]
    | letter hc hd hx hp h =>
      simp only [hc, hd, Bool.false_eq_true, if_false, if_neg hx, if_neg hp, h]
    | word hc hbr =>
      simp only [hc, hb, if_neg hbr]
      rfl
    | brace hc hbr h =>
      simp only [hc, hb, if_pos hbr, h]
      rfl
    | named hc hbr h =>
      simp only [hc, hb, if_pos hbr, h]
      rfl

theorem namedBoundary_suffix {v : Bool} {start : Nat} {c d : Cursor} {a : Assertion}
    (h : namedBoundary v start c = .ok (some (a, d))) : d.rest <:+ c.advance.rest := by
  obtain ⟨ch, -, ⟨-, h⟩ | ⟨-, s, c₁, b, hs, -, -, h⟩⟩ := namedBoundary_ok.1 h
  · cases h
  · cases h
    exact c₁.advance_suffix.trans ((suffix_of_scan hs).trans (c.advanceSkip_suffix_advance v))

theorem read_suffix {v : Bool} {c d : Cursor} {x : Symbol} (h : read v c = .ok (x, d)) :
    d.rest <:+ c.advance.advance.rest := by
  cases read_ok.1 h with
  | hex _ _ _ h => exact hex_suffix h
  | property _ _ _ h => exact property_suffix h
  | letter => exact List.suffix_refl _
  | word => exact List.suffix_refl _
  | brace => exact List.suffix_refl _
  | named _ _ hn => exact (namedBoundary_suffix hn).trans (Cursor.advance_suffix _)

/-! ## Escapes before other ends -/

section Swap

variable {t t' : List Char} {v : Bool} {c c' d : Cursor} {x : Symbol}

theorem fixedDigits_swap (e : Ends v t t') {n : Nat} {ds : List Char} (h : Swap t t' c c')
    (hr : fixedDigits v n c = .ok (ds, d)) (ht : t <:+ d.rest) :
    ∃ d', fixedDigits v n c' = .ok (ds, d') ∧ Swap t t' d d' := by
  induction n generalizing c c' ds with
  | zero => cases hr; exact ⟨c', rfl, h⟩
  | succ n ih =>
    obtain ⟨ch, s, hc, hx, hs, rfl⟩ := fixedDigits_succ_ok.1 hr
    obtain ⟨hc', h⟩ := h.advanceSkip e hc (ht.trans (fixedDigits_suffix hs))
    obtain ⟨d', hr', hd⟩ := ih h hs
    exact ⟨d', fixedDigits_succ_ok.2 ⟨ch, s, hc', hx, hr', rfl⟩, hd⟩

theorem hex_swap (e : Ends v t t') {start : Nat} {letter : Char} (h : Swap t t' c c')
    (hc : c.peek = some letter) (hr : hex v start letter c = .ok (x, d)) (ht : t <:+ d.rest)
    (start' : Nat) :
    ∃ x' d', hex v start' letter c' = .ok (x', d') ∧ x'.bare = x.bare ∧ Swap t t' d d' := by
  rcases hex_ok.1 hr with ⟨hb, ds, c₁, ch, hs, hb₁, hd, hv, rfl, rfl⟩ | ⟨hb, ds, ch, hs, hv, rfl⟩
  · have ht₁ := ht.trans (c₁.advanceSkip_suffix v)
    have ht₂ := ht₁.trans (suffix_of_scan hs)
    obtain ⟨-, h₁⟩ := h.advanceSkip e hc (ht₂.trans (Cursor.advanceSkip_suffix v _))
    obtain ⟨hb', h₂⟩ := h₁.advanceSkip e hb ht₂
    obtain ⟨c₁', hs', h₃⟩ := scan_swap e (Nat.le_of_lt (Cursor.advanceSkip_lt v hb))
      (Nat.le_of_lt (Cursor.advanceSkip_lt v hb')) h₂ hs ht₁ (.inl (by decide))
    obtain ⟨hb₁', h₄⟩ := h₃.advanceSkip e hb₁ ht
    exact ⟨_, _, hex_ok.2 (.inl ⟨hb', ds, c₁', ch, hs', hb₁', hd, hv, rfl, rfl⟩), rfl, h₄⟩
  · obtain ⟨-, h₁⟩ := h.advanceSkip e hc (ht.trans (fixedDigits_suffix hs))
    obtain ⟨d', hs', hd⟩ := fixedDigits_swap e h₁ hs ht
    refine ⟨_, d', hex_ok.2 (.inr ⟨fun h => hb ?_, ds, ch, hs', hv, rfl⟩), rfl, hd⟩
    exact (h₁.peek_iff e (by decide)).1 h

theorem property_swap (e : Ends v t t') {start : Nat} {negated : Bool} {letter : Char}
    (h : Swap t t' c c') (hc : c.peek = some letter)
    (hr : property v start negated c = .ok (x, d)) (ht : t <:+ d.rest) (start' : Nat) :
    ∃ x' d', property v start' negated c' = .ok (x', d') ∧ x'.bare = x.bare ∧ Swap t t' d d' := by
  rcases property_ok.1 hr with ⟨hb, s, c₁, hs, hb₁, rfl, rfl⟩ | ⟨ch, hb, h₁, h₂, rfl, rfl⟩
  · have ht₁ := ht.trans c₁.advance_suffix
    have ht₂ := ht₁.trans (suffix_of_scan hs)
    obtain ⟨-, h₁⟩ := h.advanceSkip e hc (ht₂.trans (Cursor.advanceSkip_suffix v _))
    obtain ⟨hb', h₂⟩ := h₁.advanceSkip e hb ht₂
    have hne : c₁.rest ≠ t := by
      rw [Cursor.peek_eq_some.1 hb₁]
      exact (ne_of_suffix_cons ht).symm
    obtain ⟨c₁', hs', h₃⟩ := scan_swap e (Nat.le_of_lt (Cursor.advanceSkip_lt v hb))
      (Nat.le_of_lt (Cursor.advanceSkip_lt v hb')) h₂ hs ht₁ (.inr hne)
    exact ⟨_, _, property_ok.2 (.inl ⟨hb', s, c₁', hs', h₃.peek hb₁ ht, rfl, rfl⟩), rfl,
      h₃.advance hb₁ ht⟩
  · obtain ⟨-, h₃⟩ := h.advanceSkip e hc (ht.trans (Cursor.advanceSkip_suffix v _))
    obtain ⟨hb', h₄⟩ := h₃.advanceSkip e hb ht
    exact ⟨_, _, property_ok.2 (.inr ⟨ch, hb', h₁, h₂, rfl, rfl⟩), rfl, h₄⟩

theorem namedBoundary_swap (e : Ends v t t') {start : Nat} {a : Assertion} {letter : Char}
    (h : Swap t t' c c') (hc : c.peek = some letter)
    (hr : namedBoundary v start c = .ok (some (a, d))) (ht : t <:+ d.rest) (start' : Nat) :
    ∃ d', namedBoundary v start' c' = .ok (some (a, d')) ∧ Swap t t' d d' := by
  obtain ⟨ch, hp, ⟨-, h⟩ | ⟨hb, s, c₁, b, hs, hb₁, ha, hr⟩⟩ := namedBoundary_ok.1 hr
  · cases h
  · cases hr
    have ht₁ := ht.trans c₁.advance_suffix
    obtain ⟨-, h₁⟩ := h.advanceSkip e hc (ht₁.trans (suffix_of_scan hs))
    obtain ⟨c₁', hs', h₂⟩ := scan_swap e (Nat.le_refl _) (Nat.le_refl _) h₁ hs ht₁
      (.inl (by decide))
    have hp' : (c'.advanceSkip v).peek = some ch :=
      (h₁.peek_iff e (by rintro rfl; revert hb; decide)).2 hp
    exact ⟨c₁'.advance, namedBoundary_ok.2 ⟨ch, hp', .inr ⟨hb, s, c₁', a, hs',
      h₂.peek hb₁ ht, ha, rfl⟩⟩, h₂.advance hb₁ ht⟩

theorem ofLetter_bare {ch : Char} {s : Span} (h : ofLetter ch s = some x) (s' : Span) :
    ∃ x', ofLetter ch s' = some x' ∧ x'.bare = x.bare := by
  unfold ofLetter at *
  split at h
  · cases h; exact ⟨_, rfl, rfl⟩
  · split at h
    · next he => cases h; exact ⟨_, if_pos he, rfl⟩
    · next he =>
      rw [if_neg he]
      split at h
      · cases h; exact ⟨_, rfl, rfl⟩
      · obtain ⟨a, ha, rfl⟩ := Option.map_eq_some_iff.1 h
        exact ⟨.assertion s' a, by rw [ha]; rfl, rfl⟩

/-- After `\b` the reader looks beyond a brace to tell a named boundary from a repetition. So
the end must not come before what stands in the braces. -/
theorem read_swap (e : Ends v t t') (h : Swap t t' c c') (hc : c.peek = some '\\')
    (hr : read v c = .ok (x, d)) (ht : t <:+ d.rest)
    (hl : ∀ s, x = .assertion s .word → d.peek = some '\x7b' → ∀ y,
      (d.advanceSkip v).peek = some y → t <:+ (d.advanceSkip v).advance.rest) :
    ∃ x' d', read v c' = .ok (x', d') ∧ x'.bare = x.bare ∧ Swap t t' d d' := by
  have ht₂ := ht.trans (read_suffix hr)
  have h₁ := h.advance hc (ht₂.trans (Cursor.advance_suffix _))
  simp only [read_ok] at hr ⊢
  cases hr with
  | hex hp hd hx hr =>
    obtain ⟨x', d', hr', hb, hd'⟩ := hex_swap e h₁ hp hr ht c'.pos
    exact ⟨x', d', .hex (h₁.peek hp ht₂) hd hx hr', hb, hd'⟩
  | property hp hd hx hr =>
    obtain ⟨x', d', hr', hb, hd'⟩ := property_swap e h₁ hp hr ht c'.pos
    exact ⟨x', d', .property (h₁.peek hp ht₂) hd hx hr', hb, hd'⟩
  | letter hp hd hx hpp hr =>
    obtain ⟨x', hr', hb⟩ := ofLetter_bare hr (c'.advance.advance.spanFrom c'.pos)
    exact ⟨x', _, .letter (h₁.peek hp ht₂) hd hx hpp hr', hb, h₁.advance hp ht₂⟩
  | word hp hb =>
    have h₂ := h₁.advance hp ht₂
    exact ⟨_, _, .word (h₁.peek hp ht₂) fun h => hb ((h₂.peek_iff e (by decide)).1 h), rfl, h₂⟩
  | brace hp hb hr =>
    have h₂ := h₁.advance hp ht₂
    obtain ⟨ch, hch, ⟨hn, -⟩ | ⟨-, s, c₁, a, -, -, -, h⟩⟩ := namedBoundary_ok.1 hr
    · have ht₃ := hl _ rfl hb ch hch
      obtain ⟨hb', h₃⟩ := h₂.advanceSkip e hb (ht₃.trans (Cursor.advance_suffix _))
      exact ⟨_, _, .brace (h₁.peek hp ht₂) hb' (namedBoundary_ok.2 ⟨ch, h₃.peek hch ht₃,
        .inl ⟨hn, rfl⟩⟩), rfl, h₂⟩
    · cases h
  | named hp hb hr =>
    have h₂ := h₁.advance hp ht₂
    obtain ⟨d', hr', hd⟩ := namedBoundary_swap e h₂ hb hr ht c'.pos
    exact ⟨_, d', .named (h₁.peek hp ht₂) ((h₂.peek_iff e (by decide)).2 hb) hr', rfl, hd⟩

end Swap

end Escape

namespace Symbol

/-- What a character other than a backslash stands for. -/
def ofChar (ch : Char) (span : Span) : Symbol :=
  match ch with
  | '.' => .dot span
  | '^' => .assertion span .startLine
  | '$' => .assertion span .endLine
  | _ => .literal ⟨span, ch, false⟩

theorem ofChar_bare (ch : Char) (s s' : Span) : (ofChar ch s).bare = (ofChar ch s').bare := by
  unfold ofChar
  split <;> rfl

theorem read_eq (v : Bool) (ch : Char) (c : Cursor) :
    read v ch c = if ch = '\\' then Escape.read v c else .ok (ofChar ch c.charSpan, c.advance) := by
  unfold read ofChar
  split
  · rfl
  · rfl
  · rfl
  · rfl
  · next h h₁ h₂ h₃ =>
    rw [if_neg h]
    split
    · exact (h₁ rfl).elim
    · exact (h₂ rfl).elim
    · exact (h₃ rfl).elim
    · rfl

theorem readInClass_eq (v : Bool) (ch : Char) (c : Cursor) :
    readInClass v ch c =
      if ch = '\\' then Escape.read v c else .ok (.literal ⟨c.charSpan, ch, false⟩, c.advance) := by
  unfold readInClass
  split
  · rfl
  · next h => rw [if_neg h]

variable {t t' : List Char} {v : Bool} {ch : Char} {c c' d : Cursor} {x : Symbol}

theorem read_suffix (h : read v ch c = .ok (x, d)) : d.rest <:+ c.advance.rest := by
  rw [read_eq] at h
  split at h
  · exact (Escape.read_suffix h).trans (Cursor.advance_suffix _)
  · cases h; exact List.suffix_refl _

theorem readInClass_suffix (h : readInClass v ch c = .ok (x, d)) : d.rest <:+ c.advance.rest := by
  rw [readInClass_eq] at h
  split at h
  · exact (Escape.read_suffix h).trans (Cursor.advance_suffix _)
  · cases h; exact List.suffix_refl _

theorem read_swap (e : Ends v t t') (h : Swap t t' c c') (hc : c.peek = some ch)
    (hr : read v ch c = .ok (x, d)) (ht : t <:+ d.rest)
    (hl : ∀ s, x = .assertion s .word → d.peek = some '\x7b' → ∀ y,
      (d.advanceSkip v).peek = some y → t <:+ (d.advanceSkip v).advance.rest) :
    ∃ x' d', read v ch c' = .ok (x', d') ∧ x'.bare = x.bare ∧ Swap t t' d d' := by
  rw [read_eq] at hr
  rw [read_eq]
  split at hr
  · next hb =>
    rw [if_pos hb]
    exact Escape.read_swap e h (hb ▸ hc) hr ht hl
  · next hb =>
    rw [if_neg hb]
    cases hr
    exact ⟨_, _, rfl, ofChar_bare _ _ _, h.advance hc ht⟩

theorem readInClass_swap (e : Ends v t t') (h : Swap t t' c c') (hc : c.peek = some ch)
    (hr : readInClass v ch c = .ok (x, d)) (ht : t <:+ d.rest)
    (hl : ∀ s, x ≠ .assertion s .word) :
    ∃ x' d', readInClass v ch c' = .ok (x', d') ∧ x'.bare = x.bare ∧ Swap t t' d d' := by
  rw [readInClass_eq] at hr
  rw [readInClass_eq]
  split at hr
  · next hb =>
    rw [if_pos hb]
    exact Escape.read_swap e h (hb ▸ hc) hr ht fun s hs => absurd hs (hl s)
  · next hb =>
    rw [if_neg hb]
    cases hr
    exact ⟨_, _, rfl, rfl, h.advance hc ht⟩

end Symbol

end UrlMask.Regex
