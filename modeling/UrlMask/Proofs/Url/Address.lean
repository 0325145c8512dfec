import Mathlib.Data.List.Induction
import Mathlib.Data.List.TakeWhile
import UrlMask.Proofs.Text.Span
import UrlMask.Proofs.Url.Form
import UrlMask.Url.Address

/-!
# Numeric addresses, written and read

An address is read back from its text. Of an IPv6 address the longest run of zeros is left out,
and what is left out is what the reader puts in.

* `Ipv4.parse_text`, `Ipv4.isMeant_text`: the text of a number of 32 bits is read as that number.
* `Ipv4.lt_of_parse`: what is read is such a number.
* `Ipv6.parse_text`: the text of eight pieces is read as these pieces.
* `Ipv6.sound_of_parse`: what is read is eight pieces.
-/
namespace UrlMask

/-! ## Digits -/

/-- What the characters of a number in some base up to sixteen are. -/
theorem exists_digitChar {b n : Nat} (hb : 1 < b) {c : Char} (h : c ∈ Nat.toDigits b n) :
    ∃ d < b, c = d.digitChar := by
  induction n using Nat.strongRecOn with
  | ind n ih =>
    rw [Nat.toDigits_eq_if hb] at h
    split at h
    · next hn => exact ⟨n, hn, List.mem_singleton.1 h⟩
    · next hn =>
      rcases List.mem_append.1 h with h | h
      · exact ih _ (Nat.div_lt_self (by omega) hb) h
      · exact ⟨n % b, Nat.mod_lt _ (by omega), List.mem_singleton.1 h⟩

theorem digitValue_digitChar {d : Nat} (h : d < 16) : Ipv4.digitValue d.digitChar = d := by
  have := (by decide : ∀ i : Fin 16, Ipv4.digitValue i.val.digitChar = i.val)
  exact this ⟨d, h⟩

/-- Digits are read as the number they write. -/
theorem foldl_toDigits {b : Nat} (hb : 1 < b) (hb' : b ≤ 16) (n : Nat) :
    (Nat.toDigits b n).foldl (fun v d => v * b + Ipv4.digitValue d) 0 = n := by
  induction n using Nat.strongRecOn with
  | ind n ih =>
    rw [Nat.toDigits_eq_if hb]
    split
    · next hn =>
      simp [digitValue_digitChar (show n < 16 by omega)]
    · next hn =>
      have hlt := Nat.mod_lt n (show b > 0 by omega)
      rw [List.foldl_append, ih _ (Nat.div_lt_self (by omega) hb)]
      simp only [List.foldl_cons, List.foldl_nil]
      rw [digitValue_digitChar (by omega), Nat.mul_comm]
      exact Nat.div_add_mod n b

/-! ## IPv4 -/

namespace Ipv4

theorem number?_toDigits {n : Nat} (h : n < 256) : number? (Nat.toDigits 10 n) = some n := by
  have := (by decide +kernel : ∀ i : Fin 256, number? (Nat.toDigits 10 i.val) = some i.val)
  exact this ⟨n, h⟩

/-- The four numbers of an address. -/
def bytes (a : Nat) : List Nat := [a / 16777216, a / 65536 % 256, a / 256 % 256, a % 256]

theorem not_mem_toDigits {c : Char} (h : c.isDigit = false) (n : Nat) :
    c ∉ Nat.toDigits 10 n := by
  intro hc
  rw [Nat.isDigit_of_mem_toDigits (by decide) (by decide) hc] at h
  cases h

theorem text_eq (a : Nat) : text a = Nat.toDigits 10 (a / 16777216) ++
    ([a / 65536 % 256, a / 256 % 256, a % 256].map (Nat.toDigits 10)).flatMap ('.' :: ·) := by
  simp [text, List.intersperse]

theorem parts_text (a : Nat) : parts (text a) = (bytes a).map (Nat.toDigits 10) := by
  have hs : Form.splitOn '.' (text a) = (bytes a).map (Nat.toDigits 10) := by
    rw [text_eq, Form.splitOn_join (not_mem_toDigits rfl _)]
    · rfl
    · intro q hq
      obtain ⟨n, -, rfl⟩ := List.mem_map.1 hq
      exact not_mem_toDigits rfl n
  unfold parts
  rw [hs]
  simp [bytes, Nat.toDigits_ne_nil]

/-- A character that the text of an address can hold. -/
def isDotted (c : Char) : Bool := c.isDigit || c == '.'

theorem ascii_of_isDotted {c : Char} (h : isDotted c = true) : c.toNat < 0x80 := by
  simp only [isDotted, Char.isDigit, Bool.or_eq_true, Bool.and_eq_true, decide_eq_true_eq,
    beq_iff_eq, UInt32.le_iff_toNat_le, Char.reduceVal, UInt32.reduceToNat] at h
  have hc : c.val.toNat = c.toNat := rfl
  rcases h with h | rfl
  · omega
  · decide

theorem isDotted_of_mem {a : Nat} {c : Char} (h : c ∈ text a) : isDotted c = true := by
  have hd {n : Nat} (h : c ∈ Nat.toDigits 10 n) : isDotted c = true := by
    simp [isDotted, Nat.isDigit_of_mem_toDigits (by decide) (by decide) h]
  rw [text_eq] at h
  simp only [List.mem_append, List.mem_flatMap, List.mem_map, List.mem_cons] at h
  rcases h with h | ⟨q, ⟨n, -, rfl⟩, h | h⟩
  · exact hd h
  · subst h
    rfl
  · exact hd h

theorem isMeant_text (a : Nat) : isMeant (text a) = true := by
  have hd : (Nat.toDigits 10 (a % 256)).all Char.isDigit = true :=
    List.all_eq_true.2 fun c hc => Nat.isDigit_of_mem_toDigits (by decide) (by decide) hc
  unfold isMeant
  rw [parts_text]
  simp [bytes, hd, Nat.toDigits_ne_nil]

/-- The text of a number of 32 bits is read as that number. -/
theorem parse_text {a : Nat} (h : a < 4294967296) : parse (text a) = some a := by
  have h₀ : a / 16777216 < 256 := by omega
  have hm : ((bytes a).map (Nat.toDigits 10)).mapM number? = some (bytes a) := by
    simp [bytes, number?_toDigits h₀, number?_toDigits (show a / 65536 % 256 < 256 by omega),
      number?_toDigits (show a / 256 % 256 < 256 by omega),
      number?_toDigits (show a % 256 < 256 by omega)]
  unfold parse
  rw [parts_text]
  dsimp only
  rw [if_neg (by simp [bytes]), hm]
  show combine 4294967296 (bytes a) = some a
  simp only [bytes, combine, Nat.reduceDiv, if_pos h₀, if_pos (show a / 65536 % 256 < 256 by omega),
    if_pos (show a / 256 % 256 < 256 by omega), if_pos (show a % 256 < 256 by omega),
    Option.map_some]
  congr 1
  omega

theorem lt_of_combine {ns : List Nat} {room a : Nat} (h : combine room ns = some a) : a < room := by
  induction ns generalizing room a with
  | nil => cases h
  | cons n ns ih =>
    cases ns with
    | nil =>
      unfold combine at h
      split at h
      · next hn => cases h; exact hn
      · cases h
    | cons m ns =>
      rw [combine] at h
      split at h
      · next hn =>
        obtain ⟨v, hv, rfl⟩ := Option.map_eq_some_iff.1 h
        have hv := ih hv
        -- `n` rooms and a part of one more
        calc n * (room / 256) + v < n * (room / 256) + room / 256 := by omega
          _ = (n + 1) * (room / 256) := by rw [Nat.add_mul, Nat.one_mul]
          _ ≤ 256 * (room / 256) := Nat.mul_le_mul_right _ hn
          _ ≤ room := Nat.mul_div_le room 256
      · cases h
      · simp

/-- What is read is a number of 32 bits. -/
theorem lt_of_parse {s : List Char} {a : Nat} (h : parse s = some a) : a < 4294967296 := by
  unfold parse at h
  dsimp only at h
  split at h
  · cases h
  · obtain ⟨ns, -, h⟩ := Option.bind_eq_some_iff.1 h
    exact lt_of_combine h

end Ipv4

/-! ## IPv6 -/

namespace Ipv6

/-- Eight pieces of sixteen bits. -/
structure Sound (ps : List Nat) : Prop where
  length : ps.length = 8
  lt : ∀ p ∈ ps, p < 65536

/-! ### Pieces -/

theorem ascii_of_isHex {c : Char} (h : Ipv4.isHex c = true) : c.toNat < 0x80 := by
  simp only [Ipv4.isHex, Char.isDigit, Bool.or_eq_true, Bool.and_eq_true, decide_eq_true_eq,
    Char.le_def, UInt32.le_iff_toNat_le, Char.reduceVal, UInt32.reduceToNat] at h
  have hc : c.val.toNat = c.toNat := rfl
  omega

theorem isHex_of_mem_pieceText {n : Nat} {c : Char} (h : c ∈ pieceText n) :
    Ipv4.isHex c = true := by
  obtain ⟨d, hd, rfl⟩ := exists_digitChar (by decide) h
  have := (by decide : ∀ i : Fin 16, Ipv4.isHex i.val.digitChar = true)
  exact this ⟨d, hd⟩

theorem length_pieceText {n : Nat} (h : n < 65536) : (pieceText n).length ≤ 4 :=
  (Nat.length_toDigits_le_iff (by decide) (by decide)).2 h

theorem exists_cons_pieceText (n : Nat) : ∃ c r, pieceText n = c :: r ∧ c ≠ ':' := by
  obtain ⟨c, r, h⟩ := List.exists_cons_of_ne_nil (Nat.toDigits_ne_nil (n := n) (b := 16))
  refine ⟨c, r, h, ?_⟩
  rintro rfl
  have := isHex_of_mem_pieceText (show ':' ∈ pieceText n by rw [pieceText, h]; simp)
  cases this

/-- Where the reader stands before a piece, it takes all of its digits. -/
theorem takeWhile_pieceText {n : Nat} (h : n < 65536) (rest : List Char)
    (hr : ∀ c ∈ rest.head?, c = ':') :
    ((pieceText n ++ rest).take 4).takeWhile Ipv4.isHex = pieceText n := by
  have hlen := length_pieceText h
  have hr' : (rest.take (4 - (pieceText n).length)).takeWhile Ipv4.isHex = [] := by
    cases rest with
    | nil => simp
    | cons c r =>
      cases hr c (by simp)
      cases 4 - (pieceText n).length <;> simp [show Ipv4.isHex ':' = false from rfl]
  rw [List.take_append, List.take_of_length_le hlen, List.takeWhile_append_of_pos
    (fun c hc => isHex_of_mem_pieceText hc), hr', List.append_nil]

section Reading

variable {fuel : Nat} {done : List Nat} {gap : Option Nat}

/-- The last piece is read. -/
theorem readFrom_last {p : Nat} (hp : p < 65536)
    (hlen : done.length + (if gap.isSome then 1 else 0) < 8) :
    readFrom (fuel + 1) ⟨done, gap⟩ (pieceText p) = some ⟨p :: done, gap⟩ := by
  obtain ⟨c, r, hc, hne⟩ := exists_cons_pieceText p
  have ht := takeWhile_pieceText hp [] (by simp)
  have hv := foldl_toDigits (show 1 < 16 by decide) (by decide) p
  change (pieceText p).foldl _ 0 = p at hv
  rw [List.append_nil] at ht
  rw [hc] at ht hv ⊢
  simp only [readFrom, ht, if_neg (show ¬ done.length + (if gap.isSome then 1 else 0) ≥ 8 by omega),
    if_neg hne, List.drop_length, hv]

/-- A piece is read, and the colon behind it. -/
theorem readFrom_piece {p : Nat} (hp : p < 65536) {s : List Char} (hs : s ≠ [])
    (hlen : done.length + (if gap.isSome then 1 else 0) < 8) :
    readFrom (fuel + 1) ⟨done, gap⟩ (pieceText p ++ ':' :: s) =
      readFrom fuel ⟨p :: done, gap⟩ s := by
  obtain ⟨c, r, hc, hne⟩ := exists_cons_pieceText p
  have ht := takeWhile_pieceText hp (':' :: s) (by simp)
  have hd : (pieceText p ++ ':' :: s).drop (pieceText p).length = ':' :: s := by simp
  have hv := foldl_toDigits (show 1 < 16 by decide) (by decide) p
  change (pieceText p).foldl _ 0 = p at hv
  rw [hc] at ht hv hd ⊢
  rw [List.cons_append] at ht hd ⊢
  simp only [readFrom, ht, if_neg (show ¬ done.length + (if gap.isSome then 1 else 0) ≥ 8 by omega),
    if_neg hne, hd, hv]
  rw [if_neg (by simpa using hs)]

theorem joinColons_ne_nil {p : Nat} {ps : List Nat} : joinColons (p :: ps) ≠ [] := by
  obtain ⟨c, r, hc, -⟩ := exists_cons_pieceText p
  cases ps <;> simp [joinColons, hc]

theorem joinColons_cons (p q : Nat) (ps : List Nat) :
    joinColons (p :: q :: ps) = pieceText p ++ ':' :: joinColons (q :: ps) := by
  simp [joinColons]

/-- Pieces up to the end are read. -/
theorem readFrom_join {ps : List Nat} (hps : ∀ p ∈ ps, p < 65536) (hfuel : ps.length ≤ fuel)
    (hlen : done.length + (if gap.isSome then 1 else 0) + ps.length ≤ 8) :
    readFrom fuel ⟨done, gap⟩ (joinColons ps) = some ⟨ps.reverse ++ done, gap⟩ := by
  induction ps generalizing done fuel with
  | nil => cases fuel <;> rfl
  | cons p ps ih =>
    simp only [List.length_cons] at hfuel hlen
    obtain ⟨fuel, rfl⟩ : ∃ n, fuel = n + 1 := ⟨fuel - 1, by omega⟩
    cases ps with
    | nil =>
      show readFrom (fuel + 1) ⟨done, gap⟩ (joinColons [p]) = _
      rw [show joinColons [p] = pieceText p by simp [joinColons],
        readFrom_last (hps p (by simp)) (by omega)]
      rfl
    | cons q ps =>
      rw [joinColons_cons, readFrom_piece (hps p (by simp)) joinColons_ne_nil (by omega),
        ih (fun r hr => hps r (List.mem_cons_of_mem _ hr)) (by omega) (by
          simp only [List.length_cons] at hlen ⊢; omega)]
      simp

/-- Pieces before and after the run that is left out are read. -/
theorem readFrom_gap {ps qs : List Nat} (hne : ps ≠ []) (hps : ∀ p ∈ ps, p < 65536)
    (hqs : ∀ q ∈ qs, q < 65536) (hfuel : ps.length + 1 + qs.length ≤ fuel)
    (hlen : done.length + ps.length + 1 + qs.length ≤ 8) :
    readFrom fuel ⟨done, none⟩ (joinColons ps ++ ':' :: ':' :: joinColons qs) =
      some ⟨qs.reverse ++ (ps.reverse ++ done), some (ps.length + done.length)⟩ := by
  induction ps generalizing done fuel with
  | nil => exact absurd rfl hne
  | cons p ps ih =>
    simp only [List.length_cons] at hfuel hlen
    have hp := hps p (by simp)
    cases ps with
    | nil =>
      simp only [List.length_nil] at hfuel hlen
      obtain ⟨fuel, rfl⟩ : ∃ n, fuel = n + 1 + 1 := ⟨fuel - 2, by omega⟩
      rw [show joinColons [p] = pieceText p by simp [joinColons],
        readFrom_piece hp (by simp) (by simp; omega)]
      unfold readFrom
      simp only [List.length_cons, Option.isSome_none, Bool.false_eq_true, if_false, if_true]
      rw [if_neg (by omega), readFrom_join hqs (by omega) (by simp; omega)]
      simp [Nat.add_comm]
    | cons q ps =>
      simp only [List.length_cons] at hfuel hlen
      obtain ⟨fuel, rfl⟩ : ∃ n, fuel = n + 1 := ⟨fuel - 1, by omega⟩
      rw [joinColons_cons, List.append_assoc, List.cons_append,
        readFrom_piece hp (by simp [joinColons_ne_nil]) (by simp; omega),
        ih (by simp) (fun r hr => hps r (List.mem_cons_of_mem _ hr)) (by simp; omega)
          (by simp; omega)]
      simp [Nat.add_assoc, Nat.add_comm]

end Reading

/-! ### The run that is left out -/

theorem take_zeros (ps : List Nat) : ps.take (zeros ps) = List.replicate (zeros ps) 0 := by
  induction ps with
  | nil => rfl
  | cons p ps ih =>
    unfold zeros at *
    rw [List.takeWhile_cons]
    split
    · next hp =>
      simp only [List.length_cons, List.take_succ_cons, List.replicate_succ, ih]
      rw [show p = 0 by simpa using hp]
    · rfl

theorem zeros_le (ps : List Nat) : zeros ps ≤ ps.length :=
  (List.takeWhile_sublist _).length_le

/-- The run that is left out is one of zeros. -/
theorem longestRun_zeros (ps : List Nat) (k : Nat) : (longestRun k ps).2 = 0 ∨
    ∃ i, (longestRun k ps).1 = k + i ∧ i + (longestRun k ps).2 ≤ ps.length ∧
      (ps.drop i).take (longestRun k ps).2 = List.replicate (longestRun k ps).2 0 := by
  induction ps generalizing k with
  | nil => exact Or.inl rfl
  | cons p ps ih =>
    rw [longestRun]
    split
    · refine Or.inr ⟨0, rfl, ?_, ?_⟩
      · simpa using zeros_le (p :: ps)
      · simpa using take_zeros (p :: ps)
    · rcases ih (k + 1) with h | ⟨i, h₁, h₂, h₃⟩
      · exact Or.inl h
      · refine Or.inr ⟨i + 1, by omega, ?_, ?_⟩
        · simp only [List.length_cons]
          omega
        · simpa using h₃

/-! ### Whole addresses -/

/-- The pieces, with zeros for the run that was left out. -/
def Reader.filled : Reader → Option (List Nat)
  | ⟨ps, none⟩ => if ps.length = 8 then some ps.reverse else none
  | ⟨ps, some n⟩ =>
    if ps.length < 8 then
      some (ps.reverse.take n ++ List.replicate (8 - ps.length) 0 ++ ps.reverse.drop n)
    else none

theorem bind_filled (o : Option Reader) : o.bind Reader.filled =
    match o with
    | none => none
    | some ⟨ps, none⟩ => if ps.length = 8 then some ps.reverse else none
    | some ⟨ps, some n⟩ =>
      if ps.length < 8 then
        some (ps.reverse.take n ++ List.replicate (8 - ps.length) 0 ++ ps.reverse.drop n)
      else none := by
  rcases o with _ | ⟨ps, _ | n⟩ <;> rfl

theorem parse_colons (s : List Char) :
    parse (':' :: ':' :: s) = (readFrom (s.length + 1) ⟨[], some 0⟩ s).bind Reader.filled :=
  (bind_filled _).symm

/-- A text that does not begin with a colon is read from its first piece on. -/
theorem parse_of_head {s : List Char} (hlen : 2 ≤ s.length) (hc : s.head? ≠ some ':') :
    parse s = (readFrom (s.length + 1) ⟨[], none⟩ s).bind Reader.filled := by
  unfold parse
  dsimp only
  split
  · next hs =>
    split at hs
    · simp at hc
    · simp at hc
    · simp at hlen
    · simp at hlen
    · cases hs
  · next hs =>
    split at hs
    · simp at hc
    · cases hs
    · cases hs
    · cases hs
    · cases hs
      exact (bind_filled _).symm

theorem head_joinColons {p : Nat} {ps : List Nat} {s : List Char} :
    (joinColons (p :: ps) ++ s).head? ≠ some ':' := by
  obtain ⟨c, r, hc, hne⟩ := exists_cons_pieceText p
  cases ps <;> simp [joinColons, hc, hne]

theorem length_joinColons (ps : List Nat) : ps.length ≤ (joinColons ps).length + 1 := by
  induction ps with
  | nil => simp
  | cons p ps ih =>
    obtain ⟨c, r, hc, -⟩ := exists_cons_pieceText p
    cases ps with
    | nil => simp
    | cons q ps =>
      simp only [joinColons_cons, hc, List.length_append, List.length_cons] at *
      omega

/-- Eight pieces without a gap are read as they are. -/
theorem parse_joinColons {ps : List Nat} (h : Sound ps) : parse (joinColons ps) = some ps := by
  have hlen := h.length
  have hps := length_joinColons ps
  obtain ⟨p, qs, rfl⟩ := List.exists_cons_of_length_pos (show 0 < ps.length by omega)
  have hhead : (joinColons (p :: qs) ++ []).head? ≠ some ':' := head_joinColons
  rw [List.append_nil] at hhead
  rw [parse_of_head (by omega) hhead, readFrom_join h.lt (by omega) (by simp at *; omega)]
  simp only [Option.bind_some, Reader.filled, List.append_nil, List.length_reverse, if_pos hlen,
    List.reverse_reverse]

section Gap

variable {pre post : List Nat}

/-- A gap is filled with the zeros that were left out. -/
theorem filled_gap (len : Nat) (h : 0 < len) (hlen : pre.length + len + post.length = 8) :
    Reader.filled ⟨post.reverse ++ pre.reverse, some pre.length⟩ =
      some (pre ++ List.replicate len 0 ++ post) := by
  have hback : (post.reverse ++ pre.reverse).reverse = pre ++ post := by simp
  have hcount : (post.reverse ++ pre.reverse).length = 8 - len := by
    simp only [List.length_append, List.length_reverse]
    omega
  unfold Reader.filled
  dsimp only
  rw [hback, hcount, if_pos (by omega), List.take_left, List.drop_left,
    show 8 - (8 - len) = len by omega]

/-- The pieces on both sides of a gap are read. -/
theorem parse_gap (hpre : ∀ p ∈ pre, p < 65536) (hpost : ∀ p ∈ post, p < 65536)
    (hlen : pre.length + post.length < 8) :
    parse (joinColons pre ++ ':' :: ':' :: joinColons post) =
      Reader.filled ⟨post.reverse ++ pre.reverse, some pre.length⟩ := by
  have hpost' := length_joinColons post
  rcases pre with _ | ⟨p, pre⟩
  · -- the text begins with the two colons
    simp only [List.length_nil] at hlen
    show parse (':' :: ':' :: joinColons post) = _
    rw [parse_colons, readFrom_join hpost hpost' (by simp; omega)]
    simp
  · have hpre' := length_joinColons (p :: pre)
    rw [parse_of_head (by simp; omega) head_joinColons,
      readFrom_gap (by simp) hpre hpost (by simp; simp at hpre'; omega) (by
        simp only [List.length_nil]; omega)]
    simp

end Gap

/-- The text of eight pieces is read as these pieces. -/
theorem parse_text {ps : List Nat} (h : Sound ps) : parse (text ps) = some ps := by
  have hlen := h.length
  unfold text
  rcases hrun : longestRun 0 ps with ⟨start, len⟩
  dsimp only
  split
  · next h2 =>
    obtain ⟨i, hi, hle, hz⟩ : ∃ i, start = 0 + i ∧ i + len ≤ ps.length ∧
        (ps.drop i).take len = List.replicate len 0 := by
      have := longestRun_zeros ps 0
      rw [hrun] at this
      exact this.resolve_left (by dsimp only; omega)
    rw [Nat.zero_add] at hi
    subst hi
    -- the pieces, with the run in their middle
    have hmid : ps.take start ++ List.replicate len 0 ++ ps.drop (start + len) = ps := by
      rw [← hz, List.append_assoc, ← List.drop_drop, List.take_append_drop, List.take_append_drop]
    have hpre : (ps.take start).length = start := by rw [List.length_take]; omega
    have hpost : (ps.drop (start + len)).length = 8 - (start + len) := by
      rw [List.length_drop, hlen]
    rw [parse_gap (fun p hp => h.lt p (List.mem_of_mem_take hp))
      (fun p hp => h.lt p (List.mem_of_mem_drop hp)) (by omega),
      filled_gap len (by omega) (by omega), hmid]
  · exact parse_joinColons h

/-! ### What is read -/

theorem digitValue_lt {c : Char} (h : Ipv4.isHex c = true) : Ipv4.digitValue c < 16 := by
  simp only [Ipv4.isHex, Char.isDigit, Bool.or_eq_true, Bool.and_eq_true, decide_eq_true_eq,
    Char.le_def, UInt32.le_iff_toNat_le, Char.reduceVal, UInt32.reduceToNat] at h
  simp only [Ipv4.digitValue, Char.isDigit, Bool.and_eq_true, decide_eq_true_eq, Char.le_def,
    UInt32.le_iff_toNat_le, Char.reduceVal, UInt32.reduceToNat]
  have hc : c.val.toNat = c.toNat := rfl
  split
  · omega
  · split <;> omega

theorem value_lt {ds : List Char} (h : ∀ c ∈ ds, Ipv4.isHex c = true) :
    ds.foldl (fun n d => n * 16 + Ipv4.digitValue d) 0 < Nat.pow 16 ds.length := by
  change _ < 16 ^ ds.length
  induction ds using List.reverseRecOn with
  | nil => simp
  | append_singleton ds d ih =>
    have hd := digitValue_lt (h d (by simp))
    have ih := ih fun c hc => h c (by simp [hc])
    rw [List.foldl_append, List.length_append, List.length_singleton, Nat.pow_succ]
    simp only [List.foldl_cons, List.foldl_nil]
    omega

/-- Four digits make a piece. -/
theorem piece_lt (s : List Char) : ((s.take 4).takeWhile Ipv4.isHex).foldl
    (fun n d => n * 16 + Ipv4.digitValue d) 0 < 65536 := by
  refine Nat.lt_of_lt_of_le (value_lt fun c hc => List.mem_takeWhile_imp hc) ?_
  have hlen : ((s.take 4).takeWhile Ipv4.isHex).length ≤ 4 :=
    Nat.le_trans (List.takeWhile_sublist _).length_le (List.length_take_le 4 _)
  exact Nat.pow_le_pow_right (by decide) hlen

theorem lt_of_byte {s : List Char} {n : Nat} (h : byte? s = some n) : n < 256 := by
  unfold byte? at h
  split at h
  · cases h
  · dsimp only at h
    split at h
    · next hn => cases h; exact hn
    · cases h

theorem lt_of_tail {s : List Char} {ps : List Nat} (h : tail4? s = some ps) :
    ∀ p ∈ ps, p < 65536 := by
  unfold tail4? at h
  split at h
  · next a b c d hm =>
    cases h
    have hlt : ∀ n ∈ [a, b, c, d], n < 256 := by
      intro n hn
      obtain ⟨q, -, hq⟩ := Span.exists_of_mem_mapM hm n hn
      exact lt_of_byte hq
    intro p hp
    simp only [List.mem_cons, List.not_mem_nil, or_false] at hp hlt
    rcases hp with rfl | rfl
    · have := hlt a (by simp); have := hlt b (by simp); omega
    · have := hlt c (by simp); have := hlt d (by simp); omega
  · cases h

theorem lt_of_readFrom {fuel : Nat} {r r' : Reader} {s : List Char}
    (h : readFrom fuel r s = some r') (hr : ∀ p ∈ r.pieces, p < 65536) :
    ∀ p ∈ r'.pieces, p < 65536 := by
  induction fuel generalizing r s with
  | zero => cases s <;> simp [readFrom] at h; subst h; exact hr
  | succ fuel ih =>
    cases s with
    | nil => simp [readFrom] at h; subst h; exact hr
    | cons c s =>
      have hcons : ∀ p ∈ (((c :: s).take 4).takeWhile Ipv4.isHex).foldl
          (fun n d => n * 16 + Ipv4.digitValue d) 0 :: r.pieces, p < 65536 := by
        intro p hp
        rcases List.mem_cons.1 hp with rfl | hp
        · exact piece_lt (c :: s)
        · exact hr p hp
      rw [readFrom] at h
      by_cases h8 : r.pieces.length + (if r.gap.isSome then 1 else 0) ≥ 8
      · rw [if_pos h8] at h
        cases h
      rw [if_neg h8] at h
      by_cases hc : c = ':'
      · rw [if_pos hc] at h
        cases hg : r.gap.isSome with
        | true =>
          rw [hg, if_pos rfl] at h
          cases h
        | false =>
          rw [hg, if_neg (by simp)] at h
          exact ih h hr
      rw [if_neg hc] at h
      dsimp only at h
      split at h
      · cases h
        exact hcons
      · next htail =>
        cases hg : (((c :: s).take 4).takeWhile Ipv4.isHex).isEmpty ||
            decide (r.pieces.length + (if r.gap.isSome then 1 else 0) > 6) with
        | true =>
          rw [if_pos hg] at h
          cases h
        | false =>
          rw [if_neg (by rw [hg]; simp)] at h
          obtain ⟨ps, hps, rfl⟩ := Option.map_eq_some_iff.1 h
          intro p hp
          rcases List.mem_append.1 hp with hp | hp
          · exact lt_of_tail hps p (List.mem_reverse.1 hp)
          · exact hr p hp
      · next s' _ =>
        cases hs' : s'.isEmpty with
        | true =>
          rw [hs', if_pos rfl] at h
          cases h
        | false =>
          rw [hs', if_neg (by simp)] at h
          exact ih h hcons
      · cases h

theorem sound_of_filled {r : Reader} {ps : List Nat} (h : r.filled = some ps)
    (hr : ∀ p ∈ r.pieces, p < 65536) : Sound ps := by
  rcases r with ⟨qs, _ | n⟩
  · unfold Reader.filled at h
    dsimp only at h
    split at h
    · next hlen =>
      cases h
      exact ⟨by simpa using hlen, fun p hp => hr p (List.mem_reverse.1 hp)⟩
    · cases h
  · unfold Reader.filled at h
    dsimp only at h
    split at h
    · next hlen =>
      cases h
      refine ⟨?_, fun p hp => ?_⟩
      · simp only [List.length_append, List.length_take, List.length_replicate, List.length_drop,
          List.length_reverse]
        omega
      · simp only [List.mem_append, List.mem_replicate] at hp
        rcases hp with (hp | ⟨-, rfl⟩) | hp
        · exact hr p (List.mem_reverse.1 (List.mem_of_mem_take hp))
        · decide
        · exact hr p (List.mem_reverse.1 (List.mem_of_mem_drop hp))
    · cases h

/-- What is read is eight pieces. -/
theorem sound_of_parse {s : List Char} {ps : List Nat} (h : parse s = some ps) : Sound ps := by
  unfold parse at h
  dsimp only at h
  split at h
  · cases h
  · next r s' hs =>
    have hr : ∀ p ∈ r.pieces, p < 65536 := by
      split at hs <;> cases hs <;> simp
    have hb : (readFrom (s'.length + 1) r s').bind Reader.filled = some ps :=
      (bind_filled _).trans h
    obtain ⟨r', hr', hf⟩ := Option.bind_eq_some_iff.1 hb
    exact sound_of_filled hf (lt_of_readFrom hr' hr)

/-- What the text of an address is made of. -/
theorem mem_text {ps : List Nat} {c : Char} (h : c ∈ text ps) :
    Ipv4.isHex c = true ∨ c = ':' := by
  have hj {qs : List Nat} (h : c ∈ joinColons qs) : Ipv4.isHex c = true ∨ c = ':' := by
    induction qs with
    | nil => cases h
    | cons q qs ih =>
      cases qs with
      | nil => exact Or.inl (isHex_of_mem_pieceText (by simpa [joinColons] using h))
      | cons p qs =>
        rw [joinColons_cons] at h
        rcases List.mem_append.1 h with h | h
        · exact Or.inl (isHex_of_mem_pieceText h)
        · rcases List.mem_cons.1 h with h | h
          · exact Or.inr h
          · exact ih h
  unfold text at h
  dsimp only at h
  split at h
  · simp only [List.mem_append, List.mem_cons] at h
    rcases h with h | h | h | h
    · exact hj h
    · exact Or.inr h
    · exact Or.inr h
    · exact hj h
  · exact hj h

end Ipv6

end UrlMask
