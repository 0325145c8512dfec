import UrlMask.Proofs.Text.Order
import UrlMask.Proofs.Url.Percent
import UrlMask.Url.Form

/-!
# Query pairs, written and read

Written pairs are read back as they were: no name or value holds a separator once it is encoded,
and an encoded text is decoded to itself. Pairs in order are the same list whatever order they
came in.

* `splitOn_append`, `cut_append`: a text is cut at the separators that joined it.
* `decode_encode`: a name or value is read back.
* `pairs_write`: pairs are read back.
* `sorted_eq_of_perm`: the sorted list depends on the pairs alone.
-/
namespace UrlMask.Form

open Utf8 (byte)

/-! ## Cutting at separators -/

section Cutting

variable {sep : Char}

theorem splitOn_ne_nil (s : List Char) : splitOn sep s ≠ [] := by
  induction s with
  | nil => simp [splitOn]
  | cons c s ih =>
    unfold splitOn
    split
    · simp
    · split <;> simp

theorem splitOn_cons_of_ne {c : Char} (hc : c ≠ sep) (s : List Char) :
    ∃ p ps, splitOn sep s = p :: ps ∧ splitOn sep (c :: s) = (c :: p) :: ps := by
  cases h : splitOn sep s with
  | nil => exact absurd h (splitOn_ne_nil s)
  | cons p ps => exact ⟨p, ps, rfl, by rw [splitOn, if_neg hc, h]⟩

theorem splitOn_eq_self {s : List Char} (h : sep ∉ s) : splitOn sep s = [s] := by
  induction s with
  | nil => rfl
  | cons c s ih =>
    simp only [List.mem_cons, not_or] at h
    rw [splitOn, if_neg (Ne.symm h.1), ih h.2]

/-- The first piece ends at the first separator. -/
theorem splitOn_append {p : List Char} (h : sep ∉ p) (s : List Char) :
    splitOn sep (p ++ sep :: s) = p :: splitOn sep s := by
  induction p with
  | nil => simp [splitOn]
  | cons c p ih =>
    simp only [List.mem_cons, not_or] at h
    rw [List.cons_append, splitOn, if_neg (Ne.symm h.1), ih h.2]

/-- The pieces of a text are those that it was joined from. -/
theorem splitOn_join {p : List Char} {ps : List (List Char)} (hp : sep ∉ p)
    (hps : ∀ q ∈ ps, sep ∉ q) : splitOn sep (p ++ ps.flatMap (sep :: ·)) = p :: ps := by
  induction ps generalizing p with
  | nil => simp [splitOn_eq_self hp]
  | cons q ps ih =>
    rw [List.flatMap_cons, List.cons_append, splitOn_append hp,
      ih (hps q (by simp)) fun r hr => hps r (by simp [hr])]

theorem mem_splitOn {s p : List Char} (h : p ∈ splitOn sep s) :
    sep ∉ p ∧ ∀ c ∈ p, c ∈ s := by
  induction s generalizing p with
  | nil =>
    cases List.mem_singleton.1 h
    simp
  | cons c s ih =>
    by_cases hc : c = sep
    · rw [splitOn, if_pos hc] at h
      rcases List.mem_cons.1 h with rfl | h
      · simp
      · exact ⟨(ih h).1, fun d hd => List.mem_cons_of_mem _ ((ih h).2 d hd)⟩
    · obtain ⟨q, qs, hs, hcs⟩ := splitOn_cons_of_ne hc s
      rw [hcs] at h
      rw [hs] at ih
      rcases List.mem_cons.1 h with rfl | h
      · have ⟨hq, hm⟩ := ih (p := q) (by simp)
        refine ⟨by simp [Ne.symm hc, hq], ?_⟩
        intro d hd
        rcases List.mem_cons.1 hd with rfl | hd
        · simp
        · exact List.mem_cons_of_mem _ (hm d hd)
      · have ⟨hq, hm⟩ := ih (p := p) (by simp [h])
        exact ⟨hq, fun d hd => List.mem_cons_of_mem _ (hm d hd)⟩

theorem cut_append {p : List Char} (h : sep ∉ p) (s : List Char) :
    cut sep (p ++ sep :: s) = (p, s) := by
  induction p with
  | nil => simp [cut]
  | cons c p ih =>
    simp only [List.mem_cons, not_or] at h
    rw [List.cons_append, cut, if_neg (Ne.symm h.1), ih h.2]
    rfl

theorem cut_eq_self {s : List Char} (h : sep ∉ s) : cut sep s = (s, []) := by
  induction s with
  | nil => rfl
  | cons c s ih =>
    simp only [List.mem_cons, not_or] at h
    rw [cut, if_neg (Ne.symm h.1), ih h.2]
    rfl

end Cutting

/-! ## Names and values -/

/-- A character of an encoded name or value. -/
def isWritten (c : Char) : Bool := isPlain c || c == '+' || Percent.isCode c

theorem ascii_of_isAlphanum {c : Char} (h : c.isAlphanum = true) : c.toNat < 0x80 := by
  have h : ((decide (c.val ≥ 'A'.val ∧ c.val ≤ 'Z'.val) ||
      (decide (c.val ≥ 'a'.val) && decide (c.val ≤ 'z'.val))) ||
      (decide (c.val ≥ '0'.val) && decide (c.val ≤ '9'.val))) = true := h
  simp only [Bool.or_eq_true, Bool.and_eq_true, decide_eq_true_eq, ge_iff_le,
    UInt32.le_iff_toNat_le, Char.reduceVal, UInt32.reduceToNat] at h
  have hc : c.val.toNat = c.toNat := rfl
  omega

theorem ascii_of_isPlain {c : Char} (h : isPlain c = true) : c.toNat < 0x80 := by
  simp only [isPlain, Bool.or_eq_true, beq_iff_eq] at h
  rcases h with (((h | rfl) | rfl) | rfl) | rfl
  · exact ascii_of_isAlphanum h
  all_goals decide

theorem isWritten_of_mem {s : List Char} {c : Char} (h : c ∈ encode s) : isWritten c = true := by
  obtain ⟨d, -, hc⟩ := List.mem_flatMap.1 h
  unfold encodeChar at hc
  split at hc
  · next hd =>
    cases List.mem_singleton.1 hc
    simp [isWritten, hd]
  · split at hc
    · cases List.mem_singleton.1 hc
      rfl
    · obtain ⟨b, -, hc⟩ := List.mem_flatMap.1 hc
      simp [isWritten, Percent.isCode_of_mem hc]

theorem not_isWritten {c : Char} (h : isWritten c = false) (s : List Char) : c ∉ encode s := by
  intro hc
  rw [isWritten_of_mem hc] at h
  cases h

theorem ascii_of_isWritten {c : Char} (h : isWritten c = true) : c.toNat < 0x80 := by
  simp only [isWritten, Bool.or_eq_true, beq_iff_eq] at h
  rcases h with (h | rfl) | h
  · exact ascii_of_isPlain h
  · decide
  · exact Percent.ascii_of_isCode h

/-- The byte of a character of a query; a plus stands for a blank. -/
def queryByte (c : Char) : UInt8 := if byte c = 0x2B then 0x20 else byte c

theorem rawBytes_ascii {s : List Char} (h : ∀ c ∈ s, c.toNat < 0x80) :
    rawBytes s = Percent.decodeBytes (s.map queryByte) := by
  rw [rawBytes, Utf8.encode_ascii h, List.map_map]
  rfl

theorem queryByte_eq {c : Char} (ha : c.toNat < 0x80) (h : c ≠ '+') : queryByte c = byte c := by
  refine if_neg ?_
  intro hb
  have hb : (byte c).toNat = 0x2B := congrArg UInt8.toNat hb
  rw [byte, Utf8.toNat_byte (by omega)] at hb
  exact h (Char.toNat_inj.1 hb)

/-- The bytes of an encoded character are read as those of the character. -/
theorem decodeBytes_encodeChar (c : Char) (r : List UInt8) :
    Percent.decodeBytes ((encodeChar c).map queryByte ++ r) =
      String.utf8EncodeChar c ++ Percent.decodeBytes r := by
  unfold encodeChar
  split
  · next hc =>
    have ha := ascii_of_isPlain hc
    have hp : c ≠ '+' := by intro h; subst h; cases hc
    have hb : byte c ≠ 0x25 := by
      intro hb
      have hb : (byte c).toNat = 0x25 := congrArg UInt8.toNat hb
      rw [byte, Utf8.toNat_byte (by omega)] at hb
      cases Char.toNat_inj.1 (show c.toNat = '%'.toNat from hb)
      cases hc
    have hu : String.utf8EncodeChar c = [byte c] := by
      have := Utf8.encode_ascii (s := [c]) (by simpa using ha)
      simpa [Utf8.encode] using this
    rw [hu]
    show Percent.decodeBytes (queryByte c :: r) = byte c :: Percent.decodeBytes r
    rw [queryByte_eq ha hp, Percent.decodeBytes_cons hb]
  · split
    · next hc =>
      subst hc
      show Percent.decodeBytes (0x20 :: r) = 0x20 :: Percent.decodeBytes r
      rw [Percent.decodeBytes_cons (by decide)]
    · have hm : ((String.utf8EncodeChar c).flatMap Percent.encodeByte).map queryByte =
          ((String.utf8EncodeChar c).flatMap Percent.encodeByte).map byte := by
        refine List.map_congr_left fun d hd => ?_
        obtain ⟨b, -, hd⟩ := List.mem_flatMap.1 hd
        have hd := Percent.isCode_of_mem hd
        refine queryByte_eq (Percent.ascii_of_isCode hd) ?_
        intro h
        subst h
        cases hd
      rw [hm, Percent.decodeBytes_encodeBytes]

theorem rawBytes_encode (s : List Char) : rawBytes (encode s) = Utf8.encode s := by
  rw [rawBytes_ascii fun c hc => ascii_of_isWritten (isWritten_of_mem hc)]
  induction s with
  | nil => rfl
  | cons c s ih =>
    show Percent.decodeBytes ((encodeChar c ++ encode s).map queryByte) = _
    rw [List.map_append, decodeBytes_encodeChar, ih, Utf8.encode_cons]

/-- A name or value is read back. -/
theorem decode_encode (s : List Char) : decode (encode s) = s := by
  rw [decode, rawBytes_encode, Utf8.decodeLossy_encode]

/-! ## Pairs -/

theorem writePair_ne_nil (p : Pair) : writePair p ≠ [] := by
  simp [writePair]

theorem not_mem_writePair (p : Pair) : '&' ∉ writePair p := by
  simp [writePair, not_isWritten (c := '&') rfl]

theorem write_cons (p : Pair) (ps : List Pair) :
    write (p :: ps) = writePair p ++ (ps.map writePair).flatMap ('&' :: ·) := by
  induction ps generalizing p with
  | nil => simp [write]
  | cons q ps ih => rw [write, ih q] <;> simp

theorem pieces_write (ps : List Pair) : pieces (write ps) = ps.map writePair := by
  cases ps with
  | nil => rfl
  | cons p ps =>
    have hs : splitOn '&' (write (p :: ps)) = (p :: ps).map writePair := by
      rw [write_cons, splitOn_join (not_mem_writePair p)]
      · rfl
      · intro q hq
        obtain ⟨r, -, rfl⟩ := List.mem_map.1 hq
        exact not_mem_writePair r
    rw [pieces, hs, List.filter_eq_self]
    intro q hq
    obtain ⟨r, -, rfl⟩ := List.mem_map.1 hq
    simp [writePair_ne_nil]

/-- Pairs are read back. -/
theorem pairs_write (ps : List Pair) : pairs (write ps) = ps := by
  rw [pairs, pieces_write, List.map_map]
  refine (List.map_congr_left fun p _ => ?_).trans (List.map_id ps)
  show (cut '=' (encode p.1 ++ '=' :: encode p.2)).map decode decode = p
  rw [cut_append (not_isWritten rfl _)]
  simp [decode_encode]

/-- What a written query is made of. -/
theorem mem_write {ps : List Pair} {c : Char} (h : c ∈ write ps) :
    isWritten c = true ∨ c = '&' ∨ c = '=' := by
  have hp {p : Pair} (h : c ∈ writePair p) : isWritten c = true ∨ c = '=' := by
    simp only [writePair, List.mem_append, List.mem_cons] at h
    rcases h with h | h | h
    · exact Or.inl (isWritten_of_mem h)
    · exact Or.inr h
    · exact Or.inl (isWritten_of_mem h)
  cases ps with
  | nil => cases h
  | cons p ps =>
    simp only [write_cons, List.mem_append, List.mem_flatMap, List.mem_map, List.mem_cons] at h
    rcases h with h | ⟨q, ⟨r, -, rfl⟩, h | h⟩
    · exact (hp h).imp_right Or.inr
    · exact Or.inr (Or.inl h)
    · exact (hp h).imp_right Or.inr

/-! ## Pairs in order -/

theorem ordered_iff {p q : Pair} : ordered p q = true ↔
    Text.precedes p.1 q.1 = true ∨ (p.1 = q.1 ∧ Text.precedes q.2 p.2 = false) := by
  simp [ordered]

theorem ordered_total (p q : Pair) : (ordered p q || ordered q p) = true := by
  rw [Bool.or_eq_true, ordered_iff, ordered_iff]
  cases h : Text.precedes p.1 q.1 with
  | true => exact Or.inl (Or.inl rfl)
  | false =>
    cases h' : Text.precedes q.1 p.1 with
    | true => exact Or.inr (Or.inl rfl)
    | false =>
      have heq := Text.eq_of_not_precedes h h'
      cases h₂ : Text.precedes q.2 p.2 with
      | false => exact Or.inl (Or.inr ⟨heq, rfl⟩)
      | true =>
        refine Or.inr (Or.inr ⟨heq.symm, ?_⟩)
        cases h₃ : Text.precedes p.2 q.2 with
        | false => rfl
        | true =>
          have := Text.precedes_trans h₂ h₃
          rw [Text.precedes_irrefl] at this
          cases this

theorem not_precedes_trans {s t u : List Char} (h : Text.precedes t s = false)
    (h' : Text.precedes u t = false) : Text.precedes u s = false := by
  cases hus : Text.precedes u s with
  | false => rfl
  | true =>
    cases hst : Text.precedes s t with
    | true => rw [← h', ← Text.precedes_trans hus hst]
    | false =>
      cases Text.eq_of_not_precedes hst h
      rw [hus] at h'
      cases h'

theorem ordered_trans (p q r : Pair) (h : ordered p q = true) (h' : ordered q r = true) :
    ordered p r = true := by
  rw [ordered_iff] at *
  rcases h with h | ⟨h₁, h₂⟩
  · rcases h' with h' | ⟨h₁', -⟩
    · exact Or.inl (Text.precedes_trans h h')
    · exact Or.inl (h₁' ▸ h)
  · rcases h' with h' | ⟨h₁', h₂'⟩
    · exact Or.inl (h₁ ▸ h')
    · exact Or.inr ⟨h₁.trans h₁', not_precedes_trans h₂ h₂'⟩

theorem ordered_antisymm {p q : Pair} (h : ordered p q = true) (h' : ordered q p = true) :
    p = q := by
  rw [ordered_iff] at *
  rcases h with h | ⟨h₁, h₂⟩
  · rcases h' with h' | ⟨h₁', -⟩
    · have := Text.precedes_trans h h'
      rw [Text.precedes_irrefl] at this
      cases this
    · rw [h₁', Text.precedes_irrefl] at h
      cases h
  · rcases h' with h' | ⟨-, h₂'⟩
    · rw [h₁, Text.precedes_irrefl] at h'
      cases h'
    · exact Prod.ext h₁ (Text.eq_of_not_precedes h₂' h₂)

/-- The list of pairs in order depends on the pairs alone. -/
theorem sorted_eq_of_perm {ps qs : List Pair} (h : ps.Perm qs) :
    ps.mergeSort ordered = qs.mergeSort ordered :=
  List.Perm.eq_of_pairwise (fun _ _ _ _ => ordered_antisymm)
    (List.pairwise_mergeSort ordered_trans ordered_total ps)
    (List.pairwise_mergeSort ordered_trans ordered_total qs)
    ((List.mergeSort_perm ps ordered).trans (h.trans (List.mergeSort_perm qs ordered).symm))

end UrlMask.Form
