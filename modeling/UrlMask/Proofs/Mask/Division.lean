import UrlMask.Proofs.Mask.Meaning
import UrlMask.Proofs.Mask.Pieces
import UrlMask.Proofs.Text.Brackets

/-!
# The one layout of a mask

A scan that counts brackets finds the sections of a mask. What it finds can be said without it:
literal text has no opening bracket, brackets come in pairs inside a section, and a section that is
never closed goes on to the end. Every text has one such layout, and the source is written from it.

* `Layout.depthAfter_eq_some_iff`: the depth of a scan is a difference of two counts.
* `Layout.ofText_text`: the scan of a proper layout's text finds this layout.
* `Layout.proper_ofText`: the layout that the scan finds is proper.
* `Layout.spells_iff`, `Layout.written_iff`: how characters and layouts are written.
* `Mask.sourceOf_outcome`: a mask has a source unless it is blank, and it is that of its one layout.
-/
namespace UrlMask

open Regex (hexDigit hexValue)

namespace Layout

/-! ## Layouts of a text -/

/-- Literal text has no opening bracket, in a section brackets come in pairs, and where a section is
never closed, no bracket in it closes it. -/
def Proper : Layout → Prop
  | literal l => '[' ∉ l
  | unclosed l t => '[' ∉ l ∧ Text.NeverCloses '[' ']' t
  | section' l u rest => '[' ∉ l ∧ Text.Paired '[' ']' u ∧ rest.Proper

/-- The text is laid out in this way. -/
structure Divides (lay : Layout) (s : List Char) : Prop where
  text_eq : lay.text = s
  proper : lay.Proper

/-! ## Depth and counts -/

theorem forall_prefix_cons {p : List Char → Prop} {c : Char} {s : List Char} :
    (∀ q, q <+: c :: s → p q) ↔ p [] ∧ ∀ q, q <+: s → p (c :: q) := by
  constructor
  · intro h
    exact ⟨h [] List.nil_prefix, fun q hq => h (c :: q) (List.cons_prefix_cons.2 ⟨rfl, hq⟩)⟩
  · rintro ⟨hnil, hcons⟩ q hq
    rcases List.prefix_cons_iff.1 hq with rfl | ⟨r, rfl, hr⟩
    · exact hnil
    · exact hcons r hr

/-- The depth is what was opened and not closed, and no start of the text closes more than was
open. -/
theorem depthAfter_eq_some_iff {d e : Nat} {s : List Char} : depthAfter d s = some e ↔
    (∀ p, p <+: s → p.count ']' ≤ p.count '[' + d) ∧ s.count '[' + d = s.count ']' + e := by
  induction s generalizing d with
  | nil => simp [depthAfter]
  | cons c s ih =>
    rw [forall_prefix_cons, depthAfter]
    by_cases hc : c = '['
    · subst hc
      rw [if_pos rfl, ih]
      simp only [List.count_cons_self, List.count_cons_of_ne (show '[' ≠ ']' by decide)]
      simp [Nat.add_assoc, Nat.add_comm 1]
    · rw [if_neg hc]
      by_cases hc' : c = ']'
      · subst hc'
        rw [if_pos rfl]
        simp only [List.count_cons_self, List.count_cons_of_ne (show ']' ≠ '[' by decide)]
        cases d with
        | zero =>
          simp only [if_true, reduceCtorEq, false_iff]
          intro h
          have := h.1.2 [] List.nil_prefix
          simp at this
        | succ d =>
          rw [if_neg (Nat.succ_ne_zero d), Nat.add_sub_cancel, ih]
          have hle (a b : Nat) : a + 1 ≤ b + (d + 1) ↔ a ≤ b + d := by omega
          simp only [hle, List.count_nil, Nat.zero_le, true_and]
          exact and_congr_right fun _ => by omega
      · rw [if_neg hc', ih]
        simp [List.count_cons_of_ne hc, List.count_cons_of_ne hc']

theorem balanced_iff_paired {s : List Char} : Balanced s ↔ Text.Paired '[' ']' s := by
  rw [Balanced, depthAfter_eq_some_iff]
  exact ⟨fun h => ⟨h.2, h.1⟩, fun h => ⟨h.neverCloses, h.count_eq⟩⟩

theorem neverCloses_iff {s : List Char} :
    Text.NeverCloses '[' ']' s ↔ ∃ e, depthAfter 0 s = some e := by
  simp only [depthAfter_eq_some_iff]
  constructor
  · intro h
    have := h s (List.prefix_refl s)
    exact ⟨s.count '[' - s.count ']', h, by omega⟩
  · rintro ⟨e, h, -⟩
    exact h

/-! ## The scan of a proper layout -/

theorem pieces_lead {l : List Char} (h : '[' ∉ l) (s : List Char) :
    pieces 0 (l ++ s) = l.foldr pushFront (pieces 0 s) := by
  induction l with
  | nil => rfl
  | cons c l ih =>
    have hc : c ≠ '[' := (List.ne_of_not_mem_cons h).symm
    have ih := ih (List.not_mem_of_not_mem_cons h)
    rw [List.cons_append, List.foldr_cons]
    by_cases hc' : c = ']'
    · subst hc'
      rw [pieces_stray, ih]
    · rw [pieces_other hc hc', ih]

theorem pieces_tail {d e : Nat} {t : List Char} (h : depthAfter d t = some e) :
    pieces (d + 1) t = [t] := by
  have hp := pieces_append h []
  rwa [List.append_nil, pieces, foldr_pushFront, List.append_nil] at hp

/-- The scan of a proper layout's text finds this layout. -/
theorem ofText_text {lay : Layout} (h : lay.Proper) : ofText lay.text = lay := by
  unfold ofText
  induction lay with
  | literal l =>
    have hp := pieces_lead h []
    rw [List.append_nil, pieces, foldr_pushFront, List.append_nil] at hp
    rw [text, hp]
    rfl
  | unclosed l t =>
    obtain ⟨hl, ht⟩ := h
    obtain ⟨e, he⟩ := neverCloses_iff.1 ht
    rw [text, pieces_lead hl, pieces_enter, pieces_tail he, foldr_pushFront, List.append_nil]
    rfl
  | section' l u rest ih =>
    obtain ⟨hl, hu, hrest⟩ := h
    rw [text, pieces_lead hl, pieces_enter, pieces_append (balanced_iff_paired.2 hu), pieces_leave,
      foldr_pushFront, foldr_pushFront, List.append_nil, List.append_nil]
    have ih := ih hrest
    cases hp : pieces 0 rest.text with
    | nil => exact absurd hp (pieces_ne_nil 0 _)
    | cons p ps =>
      rw [hp] at ih
      rw [ofPieces, ih]

/-! ## The layout that the scan finds -/

/-- Pieces of a text from inside a section, with this many brackets open in it: the first piece
closes them and no more, or the text ends before they are closed. -/
def Opened (d : Nat) : List (List Char) → Prop
  | [] => False
  | [t] => ∃ e, depthAfter d t = some e
  | u :: p :: ps => depthAfter d u = some 0 ∧ (ofPieces (p :: ps)).Proper

section Opened

variable {d d' : Nat} {c : Char} {ps : List (List Char)}

theorem Opened.pushFront (hc : ∀ u, depthAfter d (c :: u) = depthAfter d' u) (h : Opened d' ps) :
    Opened d (pushFront c ps) := by
  match ps, h with
  | [t], ⟨e, h⟩ => exact ⟨e, (hc t).trans h⟩
  | u :: _ :: _, ⟨hu, hp⟩ => exact ⟨(hc u).trans hu, hp⟩

theorem Opened.leave (hne : ps ≠ []) (h : (ofPieces ps).Proper) : Opened 0 ([] :: ps) := by
  cases ps with
  | nil => exact absurd rfl hne
  | cons p ps => exact ⟨rfl, h⟩

theorem Opened.enter (h : Opened 0 ps) : (ofPieces ([] :: ps)).Proper := by
  match ps, h with
  | [_], h => exact ⟨List.not_mem_nil, neverCloses_iff.2 h⟩
  | _ :: _ :: _, ⟨hu, hp⟩ => exact ⟨List.not_mem_nil, balanced_iff_paired.1 hu, hp⟩

theorem Proper.pushFront (hc : c ≠ '[') (h : (ofPieces ps).Proper) :
    (ofPieces (pushFront c ps)).Proper := by
  have hl {l : List Char} (h : '[' ∉ l) : '[' ∉ c :: l :=
    List.not_mem_cons_of_ne_of_not_mem hc.symm h
  match ps, h with
  | [], _ => exact hl List.not_mem_nil
  | [_], h => exact hl h
  | [_, _], ⟨h, ht⟩ => exact ⟨hl h, ht⟩
  | _ :: _ :: _ :: _, ⟨h, hu, hp⟩ => exact ⟨hl h, hu, hp⟩

end Opened

/-- One character after the other, inside a section and outside of all. -/
theorem proper_pieces (s : List Char) :
    (ofPieces (pieces 0 s)).Proper ∧ ∀ d, Opened d (pieces (d + 1) s) := by
  induction s with
  | nil => exact ⟨List.not_mem_nil, fun d => ⟨d, rfl⟩⟩
  | cons c s ih =>
    obtain ⟨hout, hin⟩ := ih
    by_cases hc : c = '['
    · subst hc
      exact ⟨(hin 0).enter, fun d => (hin (d + 1)).pushFront fun u => rfl⟩
    by_cases hc' : c = ']'
    · subst hc'
      refine ⟨hout.pushFront (by decide), fun d => ?_⟩
      cases d with
      | zero => exact .leave (pieces_ne_nil 0 s) hout
      | succ d => exact (hin d).pushFront fun u => rfl
    · rw [pieces_other hc hc']
      refine ⟨hout.pushFront hc, fun d => ?_⟩
      rw [pieces_other hc hc']
      exact (hin d).pushFront fun u => by rw [depthAfter, if_neg hc, if_neg hc']

theorem proper_ofText (s : List Char) : (ofText s).Proper := (proper_pieces s).1

theorem divides_iff {lay : Layout} {s : List Char} : lay.Divides s ↔ lay = ofText s := by
  constructor
  · rintro ⟨rfl, h⟩
    exact (ofText_text h).symm
  · rintro rfl
    exact ⟨text_ofText s, proper_ofText s⟩

/-! ## Characters of the source -/

/-- The hexadecimal digits, with letters in lower case. -/
def lowerHex : List Char := "0123456789abcdef".toList

/-- How a character of literal text is written: as it is, with two digits, or in braces with no zero
in front. -/
inductive Spells (c : Char) : List Char → Prop
  | kept (h : c.isAlphanum = true) : Spells c [c]
  | byte {x y : Char} (h : c.isAlphanum = false) (hc : c.toNat ≤ 0xFF) (hx : x ∈ lowerHex)
    (hy : y ∈ lowerHex) (hv : hexValue [x, y] = c.toNat) : Spells c ['\\', 'x', x, y]
  | braced {ds : List Char} (h : c.isAlphanum = false) (hc : 0xFF < c.toNat)
    (hds : ∀ d ∈ ds, d ∈ lowerHex) (hlead : ds.head? ≠ some '0') (hv : hexValue ds = c.toNat) :
    Spells c (['\\', 'x', '\x7b'] ++ ds ++ ['\x7d'])

theorem hexDigit_of_mem : ∀ d ∈ lowerHex, hexDigit d < 16 ∧ Json.hexChar (hexDigit d) = d ∧
    Nat.digitChar (hexDigit d) = d := by
  -- over the list: all characters would be too many
  refine List.forall_iff_forall_mem.1 ?_
  decide

theorem mem_lowerHex : ∀ d : Fin 16, Json.hexChar d ∈ lowerHex ∧ Nat.digitChar d ∈ lowerHex := by
  decide

/-- Without a zero in front, there is one way to write a number. -/
theorem eq_hexDigits {ds : List Char} (hds : ∀ d ∈ ds, d ∈ lowerHex) (hne : ds ≠ [])
    (hlead : ds.head? ≠ some '0') : ds = hexDigits (hexValue ds) := by
  induction ds using List.reverseRecOn with
  | nil => exact absurd rfl hne
  | append_singleton ds d ih =>
    obtain ⟨hlt, -, hd⟩ := hexDigit_of_mem d (hds d (by simp))
    rw [hexValue_append]
    cases ds with
    | nil => simp [hexDigits, hexValue, Nat.toDigits_of_lt_base hlt, hd]
    | cons x ds =>
      have ih := ih (fun y hy => hds y (List.mem_append_left _ hy)) (List.cons_ne_nil x ds) hlead
      have hpos : 0 < hexValue (x :: ds) := by
        apply Nat.pos_of_ne_zero
        intro hz
        rw [hz] at ih
        exact hlead (congrArg List.head? ih)
      have hdiv : (hexValue (x :: ds) * 16 + hexDigit d) / 16 = hexValue (x :: ds) := by omega
      have hmod : (hexValue (x :: ds) * 16 + hexDigit d) % 16 = hexDigit d := by omega
      rw [hexDigits, Nat.toDigits_of_base_le (by decide) (by omega), hdiv, hmod, hd, ← hexDigits,
        ← ih]

theorem head_hexDigits {n : Nat} (hn : 0 < n) : (hexDigits n).head? ≠ some '0' := by
  unfold hexDigits
  induction n using Nat.strongRecOn with
  | ind n ih =>
    by_cases h : n < 16
    · rw [Nat.toDigits_of_lt_base h]
      have := (by decide : ∀ d : Fin 16, 0 < d.val → Nat.digitChar d ≠ '0')
      simpa using this ⟨n, h⟩ hn
    · have hne : Nat.toDigits 16 (n / 16) ≠ [] := Nat.toDigits_ne_nil
      rw [Nat.toDigits_of_base_le (by decide) (by omega), List.head?_append_of_ne_nil _ hne]
      exact ih (n / 16) (by omega) (by omega)

theorem mem_hexDigits (n : Nat) : ∀ d ∈ hexDigits n, d ∈ lowerHex := by
  unfold hexDigits
  induction n using Nat.strongRecOn with
  | ind n ih =>
    by_cases h : n < 16
    · rw [Nat.toDigits_of_lt_base h]
      exact List.forall_mem_singleton.2 (mem_lowerHex ⟨n, h⟩).2
    · rw [Nat.toDigits_of_base_le (by decide) (by omega)]
      exact List.forall_mem_append.2 ⟨ih (n / 16) (by omega),
        List.forall_mem_singleton.2 (mem_lowerHex ⟨n % 16, by omega⟩).2⟩

/-- There is one way to write a character. -/
theorem spells_iff {c : Char} {w : List Char} : Spells c w ↔ w = escapeChar c := by
  constructor
  · intro h
    cases h with
    | kept h => rw [escapeChar, if_pos h]
    | @byte x y h hc hx hy hv =>
      obtain ⟨hx, hx', -⟩ := hexDigit_of_mem x hx
      obtain ⟨hy, hy', -⟩ := hexDigit_of_mem y hy
      have hn : c.toNat = hexDigit x * 16 + hexDigit y := by
        rw [← hv]
        simp [hexValue]
      have hdiv : c.toNat / 16 = hexDigit x := by omega
      have hmod : c.toNat % 16 = hexDigit y := by omega
      rw [escapeChar, if_neg (by simp [h]), if_pos hc, hdiv, hmod, hx', hy']
    | @braced ds h hc hds hlead hv =>
      have hne : ds ≠ [] := by
        rintro rfl
        simp [hexValue] at hv
        omega
      rw [escapeChar, if_neg (by simp [h]), if_neg (by omega), ← hv, ← eq_hexDigits hds hne hlead]
  · rintro rfl
    unfold escapeChar
    split
    · next h => exact .kept h
    · next h =>
      split
      · next hc =>
        have hx := (mem_lowerHex ⟨c.toNat / 16, by omega⟩).1
        have hy := (mem_lowerHex ⟨c.toNat % 16, by omega⟩).1
        refine .byte (by simpa using h) hc hx hy ?_
        have hvx := (hexDigit_hexChar ⟨c.toNat / 16, by omega⟩).2
        have hvy := (hexDigit_hexChar ⟨c.toNat % 16, by omega⟩).2
        simp only [hexValue, List.foldl_cons, List.foldl_nil] at hvx hvy ⊢
        omega
      · next hc =>
        exact .braced (by simpa using h) (by omega) (mem_hexDigits _) (head_hexDigits (by omega))
          (hexValue_hexDigits _).1

/-! ## The source -/

/-- How literal text is written: one character after the other. -/
inductive SpellsText : List Char → List Char → Prop
  | nil : SpellsText [] []
  | cons {c : Char} {l w v : List Char} (h : Spells c w) (hl : SpellsText l v) :
    SpellsText (c :: l) (w ++ v)

/-- How a layout is written between the anchors: literal text is spelled, and a section stands as it
is in a group, which stays open if the section is never closed. -/
inductive Spelled : Layout → List Char → Prop
  | literal {l w : List Char} (h : SpellsText l w) : Spelled (.literal l) w
  | unclosed {l t w : List Char} (h : SpellsText l w) :
    Spelled (.unclosed l t) (w ++ ['(', '?', ':'] ++ t)
  | section' {l u w v : List Char} {rest : Layout} (h : SpellsText l w) (hr : Spelled rest v) :
    Spelled (.section' l u rest) (w ++ ['(', '?', ':'] ++ u ++ [')'] ++ v)

/-- How a layout is written, anchored at both ends. -/
def Written (lay : Layout) (s : List Char) : Prop :=
  ∃ v, lay.Spelled v ∧ s = ['^'] ++ v ++ ['$']

theorem spellsText_iff {l w : List Char} : SpellsText l w ↔ w = escape l := by
  constructor
  · intro h
    induction h with
    | nil => rfl
    | cons h _ ih => rw [spells_iff.1 h, ih, escape, escape, List.flatMap_cons]
  · rintro rfl
    induction l with
    | nil => exact .nil
    | cons c l ih => exact .cons (spells_iff.2 rfl) ih

theorem spelled_iff {lay : Layout} {v : List Char} : lay.Spelled v ↔ v = lay.body := by
  constructor
  · intro h
    induction h with
    | literal h => exact spellsText_iff.1 h
    | unclosed h => rw [spellsText_iff.1 h, body, groupOpen]
    | section' h _ ih => simp [spellsText_iff.1 h, ih, body, groupOpen]
  · rintro rfl
    induction lay with
    | literal l => exact .literal (spellsText_iff.2 rfl)
    | unclosed l t => exact .unclosed (spellsText_iff.2 rfl)
    | section' l u rest ih =>
      have h := Spelled.section' (u := u) (spellsText_iff.2 (rfl : escape l = _)) ih
      simpa [body, groupOpen] using h

/-- There is one way to write a layout. -/
theorem written_iff {lay : Layout} {s : List Char} : lay.Written s ↔ s = lay.source := by
  simp [Written, spelled_iff, source]

end Layout

namespace Mask

/-- A mask that is blank is refused. There is one way to divide any other into literal text and
sections, and its source is what is written of this layout. -/
theorem sourceOf_outcome (text : List Char) :
    (∀ f, sourceOf text = .error f ↔ Text.trim text = [] ∧ f = .malformed text .blank) ∧
    (∃! lay : Layout, lay.Divides (Text.trim text)) ∧
    ∀ s, sourceOf text = .ok s ↔
      Text.trim text ≠ [] ∧ ∃ lay : Layout, lay.Divides (Text.trim text) ∧ lay.Written s := by
  refine ⟨fun f => ?_, ?_, fun s => ?_⟩
  · by_cases hb : Text.trim text = []
    · simp [sourceOf, hb, eq_comm]
    · simp [sourceOf_eq hb, hb]
  · exact ⟨_, Layout.divides_iff.2 rfl, fun lay h => Layout.divides_iff.1 h⟩
  · simp only [Layout.divides_iff, Layout.written_iff, exists_eq_left]
    by_cases hb : Text.trim text = []
    · simp [sourceOf, hb]
    · simp [sourceOf_eq hb, hb, eq_comm]

end Mask

end UrlMask
