import UrlMask.Regex.Search

/-!
# A search finds what there is

Every track takes a set of places to the places that its regex leads to from them. The set of
places is a number, read bit by bit. A repetition goes on until a round finds nothing new; places
that were found before need not be looked at again, since where they lead to is known.

* `Places.testBit_after`, `Places.testBit_within`: rounds of a step.
* `Regex.spans_repeat`: a repetition as rounds.
* `Regex.follows_image`: the ends of the described spans.
* `Regex.finds_iff`: a search finds a span if there is one.
-/
namespace UrlMask

/-! ## Sets of places -/

namespace Places

/-- All places of the set are in a text of `n` characters. -/
def Within (n s : Nat) : Prop := ∀ i, s.testBit i = true → i ≤ n

theorem testBit_head (b : Bool) (s : Nat) : ((if b then 1 else 0) + 2 * s).testBit 0 = b := by
  cases b <;> simp [Nat.testBit_zero]

theorem testBit_tail (b : Bool) (s i : Nat) :
    ((if b then 1 else 0) + 2 * s).testBit (i + 1) = s.testBit i := by
  rw [Nat.testBit_succ]
  congr 1
  cases b with
  | false => simp
  | true =>
    simp only [if_true]
    omega

theorem testBit_before (p : Char → Bool) (cs : List Char) (i : Nat) :
    (before p cs).testBit i = cs[i]?.any p := by
  induction cs generalizing i with
  | nil => simp [before]
  | cons c cs ih =>
    unfold before
    cases i with
    | zero => rw [testBit_head]; rfl
    | succ i => rw [testBit_tail, ih, List.getElem?_cons_succ]

theorem testBit_between (p : Option Char → Option Char → Bool) (prev : Option Char)
    (cs : List Char) (i : Nat) : (between p prev cs).testBit i =
      (decide (i ≤ cs.length) && p ((cs.take i).getLast?.or prev) (cs.drop i).head?) := by
  induction cs generalizing i prev with
  | nil =>
    unfold between
    cases i with
    | zero => cases h : p prev none <;> simp [h]
    | succ i => cases h : p prev none <;> simp [Nat.testBit_succ]
  | cons c cs ih =>
    unfold between
    cases i with
    | zero => rw [testBit_head]; simp
    | succ i =>
      rw [testBit_tail, ih]
      simp only [List.length_cons, Nat.add_le_add_iff_right, List.take_succ_cons,
        List.drop_succ_cons, List.getLast?_cons]
      cases (List.take i cs).getLast? <;> rfl

theorem testBit_all (n i : Nat) : (all n).testBit i = decide (i ≤ n) := by
  rw [all, Nat.pow_eq, Nat.testBit_two_pow_sub_one]
  simp only [Nat.lt_succ_iff]

theorem testBit_minus (s t i : Nat) : (minus s t).testBit i = (s.testBit i && !t.testBit i) := by
  rw [minus, Nat.testBit_xor, Nat.testBit_and]
  cases s.testBit i <;> cases t.testBit i <;> rfl

/-! ## Rounds -/

/-- `m` steps of a relation lead from `j` to `i`. -/
def Rounds (step : Nat → Nat → Prop) : Nat → Nat → Nat → Prop
  | 0, j, i => j = i
  | m + 1, j, i => ∃ k, step j k ∧ Rounds step m k i

section Rounds

variable {step : Nat → Nat → Prop} {n : Nat}

theorem rounds_add {m k j i : Nat} :
    Rounds step (m + k) j i ↔ ∃ p, Rounds step m j p ∧ Rounds step k p i := by
  induction m generalizing j with
  | zero => simp [Rounds]
  | succ m ih =>
    rw [Nat.add_right_comm, Rounds]
    simp only [ih, Rounds]
    constructor
    · rintro ⟨q, hq, p, hp, hi⟩; exact ⟨p, ⟨q, hq, hp⟩, hi⟩
    · rintro ⟨p, ⟨q, hq, hp⟩, hi⟩; exact ⟨q, hq, p, hp, hi⟩

/-- Rounds that end where they start can be left out. -/
theorem rounds_short (hle : ∀ j i, step j i → j ≤ i) {m j i : Nat} (h : Rounds step m j i) :
    j ≤ i ∧ ∃ k, k ≤ i - j ∧ Rounds step k j i := by
  induction m generalizing j with
  | zero => cases h; exact ⟨Nat.le_refl _, 0, Nat.zero_le _, rfl⟩
  | succ m ih =>
    obtain ⟨p, hp, h⟩ := h
    obtain ⟨hpi, k, hk, h⟩ := ih h
    have hjp := hle j p hp
    by_cases hj : j = p
    · subst hj; exact ⟨hpi, k, hk, h⟩
    · exact ⟨by omega, k + 1, by omega, p, hp, h⟩

/-- What a step keeps is kept by any number of rounds. -/
theorem rounds_keep {P : Nat → Prop} (hstep : ∀ j p, P j → step j p → P p) {m j i : Nat} (hj : P j)
    (h : Rounds step m j i) : P i := by
  induction m generalizing j with
  | zero => cases h; exact hj
  | succ m ih =>
    obtain ⟨p, hp, h⟩ := h
    exact ih (hstep j p hj hp) h

theorem rounds_le (hn : ∀ j i, step j i → i ≤ n) {m j i : Nat} (hj : j ≤ n)
    (h : Rounds step m j i) : i ≤ n :=
  rounds_keep (fun j p _ hp => hn j p hp) hj h

/-- A function on sets that takes each place to those that it leads to. -/
def Follows (n : Nat) (step : Nat → Nat → Prop) (f : Nat → Nat) : Prop :=
  ∀ s, Within n s → ∀ i, (f s).testBit i = true ↔ ∃ j, s.testBit j = true ∧ step j i

variable {f : Nat → Nat} (hf : Follows n step f) (hn : ∀ j i, step j i → i ≤ n)

include hf hn

theorem Follows.within {s : Nat} (hs : Within n s) : Within n (f s) := by
  intro i hi
  obtain ⟨j, -, h⟩ := (hf s hs i).1 hi
  exact hn j i h

omit hn in
/-- The first round is one of `f`. -/
theorem Follows.rounds_succ {s : Nat} (hs : Within n s) (k i : Nat) :
    (∃ j, s.testBit j = true ∧ Rounds step (k + 1) j i) ↔
      ∃ j, (f s).testBit j = true ∧ Rounds step k j i := by
  simp only [Rounds, hf s hs]
  constructor
  · rintro ⟨j, hj, p, hp, h⟩; exact ⟨p, ⟨j, hj, hp⟩, h⟩
  · rintro ⟨p, ⟨j, hj, hp⟩, h⟩; exact ⟨j, hj, p, hp, h⟩

theorem testBit_after {k s : Nat} (hs : Within n s) (i : Nat) :
    (after f k s).testBit i = true ↔ ∃ j, s.testBit j = true ∧ Rounds step k j i := by
  induction k generalizing s with
  | zero => simp [after, Rounds]
  | succ k ih =>
    unfold after
    dsimp only
    rw [hf.rounds_succ hs]
    split
    · next hfix =>
      rw [hfix]
      -- A round that changes nothing can be taken any number of times.
      clear ih
      induction k with
      | zero => simp [Rounds]
      | succ k ihk => rw [ihk, hf.rounds_succ hs, hfix]
    · exact ih (hf.within hn hs)

/-- Where the places of `seen` other than those of `fresh` only lead to `seen`, up to `k` rounds
from `fresh` lead to the same new places as from all of `seen`. -/
theorem testBit_within {k seen fresh : Nat} (hseen : Within n seen)
    (hfresh : ∀ j, fresh.testBit j = true → seen.testBit j = true)
    (hclosed : ∀ j i, seen.testBit j = true → fresh.testBit j = false → step j i →
      seen.testBit i = true) (i : Nat) :
    (within f k seen fresh).testBit i = true ↔
      ∃ m, m ≤ k ∧ ∃ j, seen.testBit j = true ∧ Rounds step m j i := by
  have hw : Within n fresh := fun j hj => hseen j (hfresh j hj)
  induction k generalizing seen fresh with
  | zero => simp [within, Rounds]
  | succ k ih =>
    unfold within
    dsimp only
    have ht : Within n (f fresh) := hf.within hn hw
    -- From `seen` a step leads to `seen` or to the places found now.
    have hstep (j p : Nat) (hj : seen.testBit j = true) (hp : step j p) :
        seen.testBit p = true ∨ (f fresh).testBit p = true := by
      cases hb : fresh.testBit j with
      | false => exact .inl (hclosed j p hj hb hp)
      | true => exact .inr ((hf fresh hw p).2 ⟨j, hb, hp⟩)
    split
    · next hnew =>
      have hsub (p : Nat) (hp : (f fresh).testBit p = true) : seen.testBit p = true := by
        have := testBit_minus (f fresh) seen p
        rw [hnew, hp] at this
        simpa using this
      refine ⟨fun h => ⟨0, Nat.zero_le _, i, h, rfl⟩, fun ⟨m, _, j, hj, h⟩ => ?_⟩
      exact rounds_keep (fun j p hj hp => (hstep j p hj hp).elim id (hsub p)) hj h
    · have hnew (p : Nat) : (minus (f fresh) seen).testBit p = true ↔
          (f fresh).testBit p = true ∧ seen.testBit p = false := by
        simp [testBit_minus]
      have hor (p : Nat) : (seen ||| f fresh).testBit p = true ↔
          seen.testBit p = true ∨ (f fresh).testBit p = true := by
        simp [Nat.testBit_or]
      refine (ih ?_ ?_ ?_ ?_).trans ⟨?_, ?_⟩
      · intro p hp
        exact ((hor p).1 hp).elim (hseen p) (ht p)
      · exact fun p hp => (hor p).2 (.inr ((hnew p).1 hp).1)
      · intro j p hj hb hp
        have hj : seen.testBit j = true := by
          rcases (hor j).1 hj with hj | hj
          · exact hj
          · cases hs : seen.testBit j with
            | true => rfl
            | false => rw [(hnew j).2 ⟨hj, hs⟩] at hb; cases hb
        exact (hor p).2 (hstep j p hj hp)
      · exact fun p hp => ht p ((hnew p).1 hp).1
      · rintro ⟨m, hm, j, hj, h⟩
        rcases (hor j).1 hj with hj | hj
        · exact ⟨m, by omega, j, hj, h⟩
        · obtain ⟨p, hp, hpj⟩ := (hf fresh hw j).1 hj
          exact ⟨m + 1, by omega, p, hfresh p hp, j, hpj, h⟩
      · rintro ⟨m, hm, j, hj, h⟩
        cases m with
        | zero => exact ⟨0, Nat.zero_le _, j, (hor j).2 (.inl hj), h⟩
        | succ m =>
          obtain ⟨p, hp, h⟩ := h
          exact ⟨m, by omega, p, (hor p).2 (hstep j p hj hp), h⟩

/-- Some rounds, and then up to `more` further ones. -/
theorem testBit_rounds {k more s : Nat} (hs : Within n s) (i : Nat) :
    (within f more (after f k s) (after f k s)).testBit i = true ↔
      ∃ m, m ≤ more ∧ ∃ j, s.testBit j = true ∧ Rounds step (k + m) j i := by
  have hw : Within n (after f k s) := by
    intro p hp
    obtain ⟨j, hj, h⟩ := (testBit_after hf hn hs p).1 hp
    exact rounds_le hn (hs j hj) h
  rw [testBit_within hf hn hw (fun _ h => h) (fun j i h h' => by rw [h] at h'; cases h')]
  simp only [testBit_after hf hn hs, rounds_add]
  refine exists_congr fun m => and_congr_right fun _ => ⟨?_, ?_⟩
  · rintro ⟨p, ⟨j, hj, hp⟩, h⟩; exact ⟨j, hj, p, hp, h⟩
  · rintro ⟨j, hj, p, hp, h⟩; exact ⟨p, ⟨j, hj, hp⟩, h⟩

end Rounds

end Places

/-! ## Spans between places -/

namespace Regex

open Places

/-- The regex describes what stands in the text between the places `j` and `i`. -/
def Spans (r : Regex) (text : List Char) (j i : Nat) : Prop :=
  ∃ b u a, b ++ (u ++ a) = text ∧ b.length = j ∧ (b ++ u).length = i ∧ Matches r b u a

/-- No repetition asks for more rounds than it allows. -/
def Ordered : Regex → Prop
  | empty | set _ | look _ => True
  | seq r s | alt r s => r.Ordered ∧ s.Ordered
  | group _ r => r.Ordered
  | .repeat min max _ r => (∀ m ∈ max, min ≤ m) ∧ r.Ordered

variable {r s : Regex} {text : List Char} {j i : Nat}

theorem Spans.le (h : r.Spans text j i) : j ≤ i ∧ i ≤ text.length := by
  obtain ⟨b, u, a, rfl, rfl, rfl, -⟩ := h
  simp only [List.length_append]
  omega

theorem Spans.map (h : r.Spans text j i)
    (hm : ∀ b u a, Matches r b u a → Matches s b u a) : s.Spans text j i := by
  obtain ⟨b, u, a, ht, hj, hi, h⟩ := h
  exact ⟨b, u, a, ht, hj, hi, hm b u a h⟩

theorem spans_empty : empty.Spans text j i ↔ j = i ∧ i ≤ text.length := by
  constructor
  · rintro ⟨b, u, a, rfl, rfl, rfl, h⟩
    cases h
    simp
  · rintro ⟨rfl, hi⟩
    refine ⟨text.take j, [], text.drop j, by simp, ?_, ?_, .empty⟩ <;> simp <;> omega

theorem spans_set {c : CharSet} :
    (set c).Spans text j i ↔ ∃ x, text[j]? = some x ∧ c.has x = true ∧ i = j + 1 := by
  constructor
  · rintro ⟨b, u, a, rfl, rfl, rfl, h⟩
    cases h with
    | set hx => exact ⟨_, by simp, hx, by simp⟩
  · rintro ⟨x, hx, hc, rfl⟩
    obtain ⟨hj, rfl⟩ := List.getElem?_eq_some_iff.1 hx
    refine ⟨text.take j, [text[j]], text.drop (j + 1), ?_, ?_, ?_, .set hc⟩
    · simp
    · simp only [List.length_take]; omega
    · simp only [List.length_append, List.length_take, List.length_singleton]; omega

theorem spans_look {k : Look} : (look k).Spans text j i ↔ j = i ∧ i ≤ text.length ∧
    k.holds (text.take j).getLast? (text.drop j).head? = true := by
  constructor
  · rintro ⟨b, u, a, rfl, rfl, rfl, h⟩
    cases h with
    | look hk => simp [hk]
  · rintro ⟨rfl, hi, hk⟩
    refine ⟨text.take j, [], text.drop j, by simp, ?_, ?_, .look hk⟩ <;> simp <;> omega

/-- Two spans in a row cut the text in four. -/
theorem Spans.join {p : Nat} (h₁ : r.Spans text j p) (h₂ : s.Spans text p i) :
    ∃ b u v a, b ++ (u ++ (v ++ a)) = text ∧ b.length = j ∧ (b ++ (u ++ v)).length = i ∧
      Matches r b u (v ++ a) ∧ Matches s (b ++ u) v a := by
  obtain ⟨b, u, a', ht, rfl, rfl, h₁⟩ := h₁
  obtain ⟨b', v, a, ht', hb, rfl, h₂⟩ := h₂
  rw [← ht, ← List.append_assoc b u a'] at ht'
  obtain ⟨rfl, rfl⟩ := List.append_inj ht' hb
  exact ⟨b, u, v, a, ht, rfl, by simp, h₁, h₂⟩

theorem spans_seq :
    (seq r s).Spans text j i ↔ ∃ p, r.Spans text j p ∧ s.Spans text p i := by
  constructor
  · rintro ⟨b, u, a, rfl, rfl, rfl, h⟩
    cases h with
    | @seq _ _ _ u v _ h₁ h₂ =>
      exact ⟨(b ++ u).length, ⟨b, u, v ++ a, by simp, rfl, rfl, h₁⟩,
        ⟨b ++ u, v, a, by simp, rfl, by simp, h₂⟩⟩
  · rintro ⟨p, h₁, h₂⟩
    obtain ⟨b, u, v, a, rfl, rfl, rfl, h₁, h₂⟩ := h₁.join h₂
    exact ⟨b, u ++ v, a, by simp, rfl, by simp, .seq h₁ h₂⟩

theorem spans_alt : (alt r s).Spans text j i ↔ r.Spans text j i ∨ s.Spans text j i := by
  constructor
  · rintro ⟨b, u, a, ht, hj, hi, h⟩
    cases h with
    | altLeft h => exact .inl ⟨b, u, a, ht, hj, hi, h⟩
    | altRight h => exact .inr ⟨b, u, a, ht, hj, hi, h⟩
  · rintro (h | h)
    · exact h.map fun _ _ _ => .altLeft
    · exact h.map fun _ _ _ => .altRight

theorem spans_group {k : Option Nat} : (group k r).Spans text j i ↔ r.Spans text j i := by
  constructor
  · exact fun h => h.map fun _ _ _ h => by cases h; assumption
  · exact fun h => h.map fun _ _ _ => .group

/-- A repetition describes what a number of rounds between its bounds describes. -/
theorem spans_repeat {min : Nat} {max : Option Nat} {g : Bool} :
    (Regex.repeat min max g r).Spans text j i ↔ j ≤ text.length ∧
      ∃ m, min ≤ m ∧ (∀ k ∈ max, m ≤ k) ∧ Rounds (r.Spans text) m j i := by
  constructor
  · rintro ⟨b, u, a, rfl, rfl, rfl, h⟩
    refine ⟨by simp, ?_⟩
    generalize hq : Regex.repeat min max g r = q at h
    induction h generalizing min max with
    | empty | set | look | seq | altLeft | altRight | group => cases hq
    | none => cases hq; exact ⟨0, Nat.le_refl _, fun _ _ => Nat.zero_le _, by simp [Rounds]⟩
    | @more min' max' g' r' b u v a hmax h₁ h₂ _ ih =>
      cases hq
      obtain ⟨m, hmin, hm, h⟩ := ih rfl
      refine ⟨m + 1, by omega, fun k hk => ?_, (b ++ u).length,
        ⟨b, u, v ++ a, by simp, rfl, rfl, h₁⟩, by simpa using h⟩
      subst hk
      have := hm (k - 1) rfl
      have : k ≠ 0 := by rintro rfl; exact hmax rfl
      omega
  · rintro ⟨hj, m, hmin, hmax, h⟩
    induction m generalizing min max j with
    | zero =>
      cases h
      cases Nat.le_zero.1 hmin
      refine ⟨text.take i, [], text.drop i, by simp, ?_, ?_, .none⟩ <;> simp <;> omega
    | succ m ih =>
      obtain ⟨p, h₁, h⟩ := h
      have h₂ := @ih p (min - 1) (max.map (· - 1)) h₁.le.2 (by omega) (by
        intro k hk
        obtain ⟨k', hk', rfl⟩ := Option.map_eq_some_iff.1 hk
        have := hmax k' hk'
        omega) h
      obtain ⟨b, u, v, a, rfl, rfl, rfl, h₁, h₂⟩ := h₁.join h₂
      refine ⟨b, u ++ v, a, by simp, rfl, by simp, .more ?_ h₁ h₂⟩
      rintro rfl
      have := hmax 0 rfl
      omega

/-! ## Searching -/

/-- Every span of the regex is a step of its track. -/
theorem follows_image (hr : r.Ordered) :
    Follows text.length (r.Spans text) (r.lay text).image := by
  have bound (q : Regex) (j i : Nat) (h : q.Spans text j i) : i ≤ text.length := h.le.2
  induction r with
  | empty =>
    intro s hs i
    simp only [lay, Track.image, Nat.testBit_and, testBit_all, Bool.and_eq_true, decide_eq_true_eq,
      spans_empty]
    constructor
    · rintro ⟨hi, hn⟩; exact ⟨i, hi, rfl, hn⟩
    · rintro ⟨j, hj, rfl, hn⟩; exact ⟨hj, hn⟩
  | set c =>
    intro s hs i
    simp only [lay, Track.image, Nat.testBit_shiftLeft, Nat.testBit_and, testBit_before,
      Bool.and_eq_true, decide_eq_true_eq, spans_set, Option.any_eq_true]
    constructor
    · rintro ⟨hi, hj, x, hx, hc⟩; exact ⟨i - 1, hj, x, hx, hc, by omega⟩
    · rintro ⟨j, hj, x, hx, hc, rfl⟩; exact ⟨by omega, by simpa using hj, x, by simpa using hx, hc⟩
  | look k =>
    intro s hs i
    simp only [lay, Track.image, Nat.testBit_and, testBit_between, Bool.and_eq_true,
      decide_eq_true_eq, spans_look, Option.or_none]
    constructor
    · rintro ⟨hi, hn, hk⟩; exact ⟨i, hi, rfl, hn, hk⟩
    · rintro ⟨j, hj, rfl, hn, hk⟩; exact ⟨hj, hn, hk⟩
  | seq r₁ r₂ ih₁ ih₂ =>
    intro s hs i
    have h₁ := ih₁ hr.1
    simp only [lay, Track.image, ih₂ hr.2 _ (h₁.within (bound r₁) hs), h₁ s hs, spans_seq]
    constructor
    · rintro ⟨p, ⟨j, hj, h₁⟩, h₂⟩; exact ⟨j, hj, p, h₁, h₂⟩
    · rintro ⟨j, hj, p, h₁, h₂⟩; exact ⟨p, ⟨j, hj, h₁⟩, h₂⟩
  | alt r₁ r₂ ih₁ ih₂ =>
    intro s hs i
    simp only [lay, Track.image, Nat.testBit_or, Bool.or_eq_true, ih₁ hr.1 s hs, ih₂ hr.2 s hs,
      spans_alt, and_or_left, exists_or]
  | group k r ih =>
    intro s hs i
    simp only [lay, ih hr s hs, spans_group]
  | «repeat» min max g r ih =>
    intro s hs i
    have hn := bound r
    simp only [lay, Track.image, testBit_rounds (ih hr.2) hn hs, spans_repeat]
    constructor
    · rintro ⟨m, hm, j, hj, h⟩
      refine ⟨j, hj, hs j hj, min + m, by omega, fun k hk => ?_, h⟩
      subst hk
      have := hr.1 k rfl
      dsimp only at hm
      omega
    · rintro ⟨j, hj, -, m, hmin, hmax, h⟩
      rw [← Nat.add_sub_of_le hmin] at h
      cases max with
      | some k =>
        have := hmax k rfl
        exact ⟨m - min, by dsimp only; omega, j, hj, h⟩
      | none =>
        obtain ⟨p, hp, h⟩ := rounds_add.1 h
        -- There are no more places than rounds that find something new.
        obtain ⟨-, k, hk, h'⟩ := rounds_short (fun _ _ h => h.le.1) h
        have := rounds_le hn (rounds_le hn (hs j hj) hp) h
        exact ⟨k, by dsimp only; omega, j, hj, rounds_add.2 ⟨p, hp, h'⟩⟩

/-- A search finds a span if there is one. -/
theorem finds_iff (hr : r.Ordered) (text : List Char) : r.finds text = true ↔ r.Finds text := by
  have hall : Within text.length (all text.length) := fun i hi => by simpa [testBit_all] using hi
  have hf : Follows text.length (r.Spans text) (r.lay text).image := follows_image hr
  have hbit (i : Nat) := hf (all text.length) hall i
  simp only [finds, bne_iff_ne]
  constructor
  · intro h
    obtain ⟨i, hi⟩ := Nat.exists_testBit_of_ne_zero h
    obtain ⟨j, -, b, u, a, ht, -, -, hm⟩ := (hbit i).1 hi
    exact ⟨b, u, a, ht, hm⟩
  · rintro ⟨b, u, a, rfl, hm⟩ h₀
    have := (hbit (b ++ u).length).2 ⟨b.length, by simp [testBit_all], b, u, a, rfl, rfl, rfl, hm⟩
    rw [h₀, Nat.zero_testBit] at this
    cases this

end Regex

end UrlMask
