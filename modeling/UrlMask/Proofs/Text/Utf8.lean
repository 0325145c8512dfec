import UrlMask.Text.Utf8

/-!
# Reading UTF-8 back

The bytes of a text are read as that text. The other way round, bytes that are well-formed are the
bytes of what they are read as, so nothing but ill-formed bytes is lost when bytes are read as text.

* `step_encodeChar`: the bytes of a character are read as that character.
* `encodeChar_of_step`: bytes that are read as a character are the bytes of that character.
* `decode_encode`, `decodeLossy_encode`: the bytes of a text are read as that text.
* `decode_eq_some_iff`: bytes are well-formed if they are those of a text.
* `byte_mem_encode`: which bytes of a text are those of ASCII characters.
* `encode_decodeLossy`: well-formed bytes are those of the text that they are read as.
-/
namespace UrlMask.Utf8

theorem toNat_ofNat {n : Nat} (h : n.isValidChar) : (Char.ofNat n).toNat = n := by
  unfold Char.ofNat
  rw [dif_pos h]
  rfl

theorem toNat_byte {n : Nat} (h : n < 256) : (UInt8.ofNat n).toNat = n := by
  rw [UInt8.toNat_ofNat']; omega

/-! ## One character -/

/-- What a first byte asks for. -/
theorem shape_ofNat {n : Nat} (h : n < 256) : shape (UInt8.ofNat n) =
    if n < 0x80 then some (1, 0, 0)
    else if n < 0xC2 then none
    else if n < 0xE0 then some (2, 0x80, 0xBF)
    else if n = 0xE0 then some (3, 0xA0, 0xBF)
    else if n = 0xED then some (3, 0x80, 0x9F)
    else if n < 0xF0 then some (3, 0x80, 0xBF)
    else if n = 0xF0 then some (4, 0x90, 0xBF)
    else if n < 0xF4 then some (4, 0x80, 0xBF)
    else if n = 0xF4 then some (4, 0x80, 0x8F)
    else none := by
  have := (by decide +kernel : ∀ i : Fin 256, shape (UInt8.ofNat i.val) =
    if i.val < 0x80 then some (1, 0, 0)
    else if i.val < 0xC2 then none
    else if i.val < 0xE0 then some (2, 0x80, 0xBF)
    else if i.val = 0xE0 then some (3, 0xA0, 0xBF)
    else if i.val = 0xED then some (3, 0x80, 0x9F)
    else if i.val < 0xF0 then some (3, 0x80, 0xBF)
    else if i.val = 0xF0 then some (4, 0x90, 0xBF)
    else if i.val < 0xF4 then some (4, 0x80, 0xBF)
    else if i.val = 0xF4 then some (4, 0x80, 0x8F)
    else none)
  exact this ⟨n, h⟩

theorem isCont_ofNat {n : Nat} (h : n < 256) :
    isCont (UInt8.ofNat n) = decide (0x80 ≤ n ∧ n < 0xC0) := by
  simp [isCont, UInt8.le_iff_toNat_le, UInt8.lt_iff_toNat_lt, toNat_byte h]

theorem low_ofNat {n : Nat} (h : n < 256) : low (UInt8.ofNat n) = n % 64 := by
  rw [low, toNat_byte h]

section Step

variable {a b c d : Nat} (r : List UInt8)

theorem step_one (ha : a < 0x80) : step (UInt8.ofNat a :: r) = some (some (Char.ofNat a), r) := by
  have hs := shape_ofNat (show a < 256 by omega)
  rw [if_pos ha] at hs
  simp only [step, hs, toNat_byte (show a < 256 by omega)]

theorem step_two (ha : 0xC2 ≤ a ∧ a < 0xE0) (hb : 0x80 ≤ b ∧ b < 0xC0) :
    step (UInt8.ofNat a :: UInt8.ofNat b :: r) =
      some (some (Char.ofNat (a % 32 * 64 + b % 64)), r) := by
  have hs := shape_ofNat (show a < 256 by omega)
  rw [if_neg (by omega), if_neg (by omega), if_pos (by omega)] at hs
  have hr : ¬ ((UInt8.ofNat b < 0x80 || 0xBF < UInt8.ofNat b) = true) := by
    simp [UInt8.lt_iff_toNat_lt, toNat_byte (show b < 256 by omega)]; omega
  simp only [step, hs, if_neg hr, if_true, toNat_byte (show a < 256 by omega),
    low_ofNat (show b < 256 by omega)]

/-- The second byte of three or four is in the range that the first one gives it. -/
def Second (a b : Nat) : Prop :=
  0x80 ≤ b ∧ b < 0xC0 ∧ (a = 0xE0 → 0xA0 ≤ b) ∧ (a = 0xED → b < 0xA0) ∧
    (a = 0xF0 → 0x90 ≤ b) ∧ (a = 0xF4 → b < 0x90)

/-- A first byte of three or four gives the second one its range. -/
theorem shape_more (ha : 0xE0 ≤ a ∧ a < 0xF5) : ∃ lo hi,
    shape (UInt8.ofNat a) = some (if a < 0xF0 then 3 else 4, lo, hi) ∧
      ∀ b < 256, (UInt8.ofNat b < lo || hi < UInt8.ofNat b) = false ↔ Second a b := by
  have hs := shape_ofNat (show a < 256 by omega)
  rw [if_neg (by omega), if_neg (by omega), if_neg (by omega)] at hs
  have range {lo hi : UInt8} (h : ∀ b, Second a b ↔ lo.toNat ≤ b ∧ b ≤ hi.toNat) :
      ∀ b < 256, (UInt8.ofNat b < lo || hi < UInt8.ofNat b) = false ↔ Second a b := fun b hb => by
    rw [h]
    simp [UInt8.lt_iff_toNat_lt, toNat_byte hb]
  by_cases h : a < 0xF0
  · rw [if_pos h]
    split at hs
    · next he => exact ⟨_, _, hs, range fun b => by simp [Second, he]; omega⟩
    split at hs
    · next hd => exact ⟨_, _, hs, range fun b => by simp [Second, hd]; omega⟩
    · exact ⟨_, _, hs, range fun b => by simp [Second]; omega⟩
  · rw [if_neg h]
    rw [if_neg (by omega), if_neg (by omega), if_neg h] at hs
    split at hs
    · next h₀ => exact ⟨_, _, hs, range fun b => by simp [Second, h₀]; omega⟩
    split at hs
    · exact ⟨_, _, hs, range fun b => by simp [Second]; omega⟩
    · rw [if_pos (by omega)] at hs
      exact ⟨_, _, hs, range fun b => by simp [Second, show a = 0xF4 by omega]; omega⟩

theorem shape_three (ha : 0xE0 ≤ a ∧ a < 0xF0) : ∃ lo hi,
    shape (UInt8.ofNat a) = some (3, lo, hi) ∧
      ∀ b < 256, (UInt8.ofNat b < lo || hi < UInt8.ofNat b) = false ↔ Second a b := by
  have h := shape_more (show 0xE0 ≤ a ∧ a < 0xF5 by omega)
  rwa [if_pos ha.2] at h

theorem shape_four (ha : 0xF0 ≤ a ∧ a < 0xF5) : ∃ lo hi,
    shape (UInt8.ofNat a) = some (4, lo, hi) ∧
      ∀ b < 256, (UInt8.ofNat b < lo || hi < UInt8.ofNat b) = false ↔ Second a b := by
  have h := shape_more (show 0xE0 ≤ a ∧ a < 0xF5 by omega)
  rwa [if_neg (by omega)] at h

theorem step_three (ha : 0xE0 ≤ a ∧ a < 0xF0) (hb : Second a b) (hc : 0x80 ≤ c ∧ c < 0xC0) :
    step (UInt8.ofNat a :: UInt8.ofNat b :: UInt8.ofNat c :: r) =
      some (some (Char.ofNat ((a % 16 * 64 + b % 64) * 64 + c % 64)), r) := by
  have hb' := hb.2.1
  obtain ⟨lo, hi, hs, hr⟩ := shape_three ha
  have hr := (hr b (by omega)).2 hb
  simp only [step, hs, hr, isCont_ofNat (show c < 256 by omega), decide_eq_true hc,
    toNat_byte (show a < 256 by omega), low_ofNat (show b < 256 by omega),
    low_ofNat (show c < 256 by omega), Bool.false_eq_true, if_false, Nat.reduceEqDiff,
    Bool.not_true,
    if_true]

theorem step_four (ha : 0xF0 ≤ a ∧ a < 0xF5) (hb : Second a b) (hc : 0x80 ≤ c ∧ c < 0xC0)
    (hd : 0x80 ≤ d ∧ d < 0xC0) :
    step (UInt8.ofNat a :: UInt8.ofNat b :: UInt8.ofNat c :: UInt8.ofNat d :: r) =
      some (some (Char.ofNat (((a % 8 * 64 + b % 64) * 64 + c % 64) * 64 + d % 64)), r) := by
  have hb' := hb.2.1
  obtain ⟨lo, hi, hs, hr⟩ := shape_four ha
  have hr := (hr b (by omega)).2 hb
  simp only [step, hs, hr, isCont_ofNat (show c < 256 by omega), decide_eq_true hc,
    isCont_ofNat (show d < 256 by omega), decide_eq_true hd,
    toNat_byte (show a < 256 by omega), low_ofNat (show b < 256 by omega),
    low_ofNat (show c < 256 by omega), low_ofNat (show d < 256 by omega), Bool.false_eq_true,
    if_false, Nat.reduceEqDiff, Bool.not_true]

end Step

/-- The bytes of a character are read as that character. -/
theorem step_encodeChar (c : Char) (r : List UInt8) :
    step (String.utf8EncodeChar c ++ r) = some (some c, r) := by
  have hv : c.toNat.isValidChar := c.valid
  have hc : c.val.toNat = c.toNat := rfl
  unfold String.utf8EncodeChar
  simp only [hc]
  have heq {n : Nat} (h : n = c.toNat) : Char.ofNat n = c := by rw [h, Char.ofNat_toNat]
  by_cases h₁ : c.toNat ≤ 127
  · rw [if_pos h₁]
    refine (step_one r (by omega)).trans ?_
    rw [heq rfl]
  rw [if_neg h₁]
  by_cases h₂ : c.toNat ≤ 2047
  · rw [if_pos h₂]
    refine (step_two r ⟨by omega, by omega⟩ ⟨by omega, by omega⟩).trans ?_
    rw [heq (by omega)]
  rw [if_neg h₂]
  by_cases h₃ : c.toNat ≤ 65535
  · rw [if_pos h₃]
    refine (step_three r ⟨by omega, by omega⟩ ?_ ⟨by omega, by omega⟩).trans ?_
    · refine ⟨by omega, by omega, by omega, ?_, by omega, by omega⟩
      -- what follows the last byte before the surrogates is a surrogate
      intro h
      rcases hv with hv | hv <;> omega
    · rw [heq (by omega)]
  rw [if_neg h₃]
  have hlt : c.toNat < 1114112 := by rcases hv with hv | hv <;> omega
  refine (step_four r ⟨by omega, by omega⟩ ?_ ⟨by omega, by omega⟩ ⟨by omega, by omega⟩).trans ?_
  · exact ⟨by omega, by omega, by omega, by omega, by omega, by omega⟩
  · rw [heq (by omega)]

/-! ## Bytes that are a character -/

section Bytes

variable {a b c d : Nat}

theorem encodeChar_two (ha : 0xC2 ≤ a ∧ a < 0xE0) (hb : 0x80 ≤ b ∧ b < 0xC0) :
    String.utf8EncodeChar (Char.ofNat (a % 32 * 64 + b % 64)) = [UInt8.ofNat a, UInt8.ofNat b] := by
  have hn : (Char.ofNat (a % 32 * 64 + b % 64)).val.toNat = a % 32 * 64 + b % 64 :=
    toNat_ofNat (Or.inl (by omega))
  unfold String.utf8EncodeChar
  simp only [hn]
  rw [if_neg (by omega), if_pos (by omega)]
  congr 3 <;> omega

theorem encodeChar_three (ha : 0xE0 ≤ a ∧ a < 0xF0) (hb : Second a b) (hc : 0x80 ≤ c ∧ c < 0xC0) :
    String.utf8EncodeChar (Char.ofNat ((a % 16 * 64 + b % 64) * 64 + c % 64)) =
      [UInt8.ofNat a, UInt8.ofNat b, UInt8.ofNat c] := by
  obtain ⟨hb₁, hb₂, he, hd, -, -⟩ := hb
  have hn : (Char.ofNat ((a % 16 * 64 + b % 64) * 64 + c % 64)).val.toNat =
      (a % 16 * 64 + b % 64) * 64 + c % 64 := by
    refine toNat_ofNat ?_
    by_cases h : a < 0xED ∨ a = 0xED
    · exact Or.inl (by omega)
    · exact Or.inr ⟨by omega, by omega⟩
  unfold String.utf8EncodeChar
  simp only [hn]
  rw [if_neg (by omega), if_neg (by omega), if_pos (by omega)]
  congr 3
  · omega
  · omega
  · congr 2; omega

theorem encodeChar_four (ha : 0xF0 ≤ a ∧ a < 0xF5) (hb : Second a b) (hc : 0x80 ≤ c ∧ c < 0xC0)
    (hd : 0x80 ≤ d ∧ d < 0xC0) :
    String.utf8EncodeChar (Char.ofNat (((a % 8 * 64 + b % 64) * 64 + c % 64) * 64 + d % 64)) =
      [UInt8.ofNat a, UInt8.ofNat b, UInt8.ofNat c, UInt8.ofNat d] := by
  obtain ⟨hb₁, hb₂, -, -, h₀, h₄⟩ := hb
  have hn : (Char.ofNat (((a % 8 * 64 + b % 64) * 64 + c % 64) * 64 + d % 64)).val.toNat =
      ((a % 8 * 64 + b % 64) * 64 + c % 64) * 64 + d % 64 :=
    toNat_ofNat (Or.inr ⟨by omega, by omega⟩)
  unfold String.utf8EncodeChar
  simp only [hn]
  rw [if_neg (by omega), if_neg (by omega), if_neg (by omega)]
  congr 3
  · omega
  · omega
  · congr 2
    · omega
  · congr 3; omega

end Bytes

theorem exists_ofNat (b : UInt8) : ∃ n < 256, b = UInt8.ofNat n :=
  ⟨b.toNat, b.toNat_lt, (UInt8.ofNat_toNat).symm⟩

theorem exists_of_isCont {y : UInt8} (h : isCont y = true) :
    ∃ n, (0x80 ≤ n ∧ n < 0xC0) ∧ y = UInt8.ofNat n := by
  obtain ⟨n, hn, rfl⟩ := exists_ofNat y
  exact ⟨n, of_decide_eq_true ((isCont_ofNat hn).symm.trans h), rfl⟩

section Shapes

variable {x lo hi : UInt8} {bs r : List UInt8} {c : Char}

/-- Where two bytes are asked for and read, the second is in range. -/
theorem bytes_of_two (hs : shape x = some (2, lo, hi)) (h : step (x :: bs) = some (some c, r)) :
    ∃ y t, bs = y :: t ∧ (y < lo || hi < y) = false := by
  simp only [step, hs] at h
  split at h
  · cases h
  · next y t =>
    split at h
    · cases h
    · next hy => exact ⟨y, t, rfl, by simpa using hy⟩

/-- Where more bytes are asked for and read, the second is in range and the third goes on. -/
theorem bytes_of_more {n : Nat} (hn : n = 3 ∨ n = 4) (hs : shape x = some (n, lo, hi))
    (h : step (x :: bs) = some (some c, r)) :
    ∃ y z t, bs = y :: z :: t ∧ (y < lo || hi < y) = false ∧ isCont z = true ∧
      (n = 4 → ∃ w t', t = w :: t' ∧ isCont w = true) := by
  rcases bs with _ | ⟨y, _ | ⟨z, t⟩⟩
  · rcases hn with rfl | rfl <;> simp [step, hs] at h
  · rcases hn with rfl | rfl <;> simp only [step, hs] at h <;> split at h <;> cases h
  · have hy : (y < lo || hi < y : Bool) = false := by
      cases hy : (y < lo || hi < y : Bool) with
      | false => rfl
      | true => rcases hn with rfl | rfl <;> simp only [step, hs, if_pos hy] at h <;> cases h
    have hz : isCont z = true := by
      cases hz : isCont z with
      | true => rfl
      | false => rcases hn with rfl | rfl <;> simp [step, hs, hy, hz] at h
    refine ⟨y, z, t, rfl, hy, hz, ?_⟩
    rintro rfl
    rcases t with _ | ⟨w, t⟩
    · simp [step, hs, hy, hz] at h
    · refine ⟨w, t, rfl, ?_⟩
      cases hw : isCont w with
      | true => rfl
      | false => simp [step, hs, hy, hz, hw] at h

end Shapes

/-- Bytes that are read as a character are the bytes of that character. -/
theorem encodeChar_of_step {bs r : List UInt8} {c : Char} (h : step bs = some (some c, r)) :
    bs = String.utf8EncodeChar c ++ r := by
  rcases bs with _ | ⟨x, bs⟩
  · cases h
  obtain ⟨a, ha, rfl⟩ := exists_ofNat x
  by_cases h₁ : a < 0x80
  · rw [step_one bs h₁] at h
    cases h
    have hn : (Char.ofNat a).val.toNat = a := toNat_ofNat (Or.inl (by omega))
    simp [String.utf8EncodeChar, hn, show a ≤ 127 by omega]
  have hs := shape_ofNat ha
  rw [if_neg h₁] at hs
  by_cases h₂ : a < 0xC2
  · rw [if_pos h₂] at hs
    simp [step, hs] at h
  rw [if_neg h₂] at hs
  by_cases h₃ : a < 0xE0
  · rw [if_pos h₃] at hs
    obtain ⟨y, t, rfl, hy⟩ := bytes_of_two hs h
    obtain ⟨b, hb, rfl⟩ := exists_ofNat y
    have hb : 0x80 ≤ b ∧ b < 0xC0 := by
      simp [UInt8.lt_iff_toNat_lt, toNat_byte hb] at hy
      omega
    rw [step_two t ⟨by omega, h₃⟩ hb] at h
    cases h
    rw [encodeChar_two ⟨by omega, h₃⟩ hb]
    rfl
  by_cases h₄ : a < 0xF0
  · obtain ⟨lo, hi, hs, hr⟩ := shape_three (show 0xE0 ≤ a ∧ a < 0xF0 by omega)
    obtain ⟨y, z, t, rfl, hy, hz, -⟩ := bytes_of_more (Or.inl rfl) hs h
    obtain ⟨b, hb, rfl⟩ := exists_ofNat y
    obtain ⟨c, hc, rfl⟩ := exists_of_isCont hz
    have hb := (hr b hb).1 hy
    rw [step_three t ⟨by omega, h₄⟩ hb hc] at h
    cases h
    rw [encodeChar_three ⟨by omega, h₄⟩ hb hc]
    rfl
  by_cases h₅ : a < 0xF5
  · obtain ⟨lo, hi, hs, hr⟩ := shape_four (show 0xF0 ≤ a ∧ a < 0xF5 by omega)
    obtain ⟨y, z, t, rfl, hy, hz, ht⟩ := bytes_of_more (Or.inr rfl) hs h
    obtain ⟨w, t, rfl, hw⟩ := ht rfl
    obtain ⟨b, hb, rfl⟩ := exists_ofNat y
    obtain ⟨c, hc, rfl⟩ := exists_of_isCont hz
    obtain ⟨d, hd, rfl⟩ := exists_of_isCont hw
    have hb := (hr b hb).1 hy
    rw [step_four t ⟨by omega, h₅⟩ hb hc hd] at h
    cases h
    rw [encodeChar_four ⟨by omega, h₅⟩ hb hc hd]
    rfl
  · rw [if_neg h₃, if_neg (by omega), if_neg (by omega), if_neg h₄, if_neg (by omega),
      if_neg (by omega), if_neg (by omega)] at hs
    simp [step, hs] at h

/-! ## Whole texts -/

theorem encode_cons (c : Char) (s : List Char) :
    encode (c :: s) = String.utf8EncodeChar c ++ encode s := rfl

/-- The byte of an ASCII character. -/
def byte (c : Char) : UInt8 := UInt8.ofNat c.toNat

theorem encodeChar_ascii {c : Char} (h : c.toNat < 0x80) : String.utf8EncodeChar c = [byte c] := by
  have hc : c.val.toNat ≤ 127 := by
    show c.toNat ≤ 127
    omega
  simp only [String.utf8EncodeChar, if_pos hc]
  rfl

theorem encode_ascii {s : List Char} (h : ∀ c ∈ s, c.toNat < 0x80) : encode s = s.map byte := by
  induction s with
  | nil => rfl
  | cons c s ih =>
    rw [encode_cons, ih fun d hd => h d (by simp [hd]), encodeChar_ascii (h c (by simp))]
    rfl

/-- Beyond ASCII, all bytes of a character have their highest bit set. -/
theorem le_of_mem_encodeChar {c : Char} (hc : 0x80 ≤ c.toNat) {b : UInt8}
    (hb : b ∈ String.utf8EncodeChar c) : 0x80 ≤ b.toNat := by
  have hv : c.toNat < 1114112 := by
    have hv : c.toNat.isValidChar := c.valid
    rcases hv with hv | hv <;> omega
  have hval : c.val.toNat = c.toNat := rfl
  unfold String.utf8EncodeChar at hb
  simp only [hval] at hb
  rw [if_neg (by omega)] at hb
  split at hb
  · simp only [List.mem_cons, List.not_mem_nil, or_false] at hb
    rcases hb with rfl | rfl <;> rw [toNat_byte (by omega)] <;> omega
  split at hb <;> simp only [List.mem_cons, List.not_mem_nil, or_false] at hb
  · rcases hb with rfl | rfl | rfl <;> rw [toNat_byte (by omega)] <;> omega
  · rcases hb with rfl | rfl | rfl | rfl <;> rw [toNat_byte (by omega)] <;> omega

/-- The byte of an ASCII character is among the bytes of a text where the character is in it. -/
theorem byte_mem_encode {a : Char} (ha : a.toNat < 0x80) {s : List Char} :
    byte a ∈ encode s ↔ a ∈ s := by
  rw [encode, List.mem_flatMap]
  constructor
  · rintro ⟨c, hc, hb⟩
    by_cases hlow : c.toNat < 0x80
    · rw [encodeChar_ascii hlow, List.mem_singleton, byte, byte, ← UInt8.toNat_inj,
        toNat_byte (by omega), toNat_byte (by omega)] at hb
      rwa [← Char.ofNat_toNat a, hb, Char.ofNat_toNat]
    · have := le_of_mem_encodeChar (by omega) hb
      rw [byte, toNat_byte (by omega)] at this
      omega
  · intro h
    exact ⟨a, h, encodeChar_ascii ha ▸ List.mem_singleton_self _⟩

/-- The test holds of every ASCII character. The characters are gone through in eight rows of
sixteen, to be short to evaluate. -/
abbrev HoldsOnAscii (p : Char → Bool) : Prop :=
  ∀ i : Fin 8, ∀ j : Fin 16, p (Char.ofNat (16 * i.val + j.val)) = true

theorem forall_ascii {p : Char → Bool} (h : HoldsOnAscii p) {c : Char} (hc : c.toNat < 0x80) :
    p c = true := by
  have := h ⟨c.toNat / 16, by omega⟩ ⟨c.toNat % 16, by omega⟩
  rwa [Nat.div_add_mod, Char.ofNat_toNat] at this

theorem encodeChar_ne_nil (c : Char) : String.utf8EncodeChar c ≠ [] := by
  unfold String.utf8EncodeChar
  dsimp only
  split
  · simp
  · split
    · simp
    · split <;> simp

theorem decodeFrom_encode (s : List Char) :
    ∀ fuel, (encode s).length ≤ fuel → decodeFrom? fuel (encode s) = some s := by
  induction s with
  | nil => intro fuel _; cases fuel <;> rfl
  | cons c s ih =>
    intro fuel hf
    have hpos := List.length_pos_iff.2 (encodeChar_ne_nil c)
    rw [encode_cons, List.length_append] at hf
    obtain ⟨fuel, rfl⟩ : ∃ n, fuel = n + 1 := ⟨fuel - 1, by omega⟩
    rw [encode_cons, decodeFrom?, step_encodeChar]
    show (decodeFrom? fuel (encode s)).map (c :: ·) = some (c :: s)
    rw [ih fuel (by omega)]
    rfl

/-- The bytes of a text are read as that text, -/
theorem decode_encode (s : List Char) : decode? (encode s) = some s :=
  decodeFrom_encode s _ (Nat.le_refl _)

theorem decodeLossyFrom_eq : ∀ (fuel : Nat) {bs : List UInt8} {s : List Char},
    decodeFrom? fuel bs = some s → decodeLossyFrom fuel bs = s
  | 0, _, _, h => Option.some.inj h
  | fuel + 1, bs, s, h => by
    unfold decodeFrom? at h
    unfold decodeLossyFrom
    split at h
    · next hs =>
      rw [hs]
      exact Option.some.inj h
    · cases h
    · next c r hs =>
      obtain ⟨t, ht, rfl⟩ := Option.map_eq_some_iff.1 h
      rw [hs, ← decodeLossyFrom_eq fuel ht]
      rfl

/-- and so are they where any bytes are read. -/
theorem decodeLossy_encode (s : List Char) : decodeLossy (encode s) = s :=
  decodeLossyFrom_eq _ (decode_encode s)

theorem decodeLossy_ascii {s : List Char} (h : ∀ c ∈ s, c.toNat < 0x80) :
    decodeLossy (s.map byte) = s := by
  rw [← encode_ascii h, decodeLossy_encode]

/-- A step is taken as long as there are bytes. -/
theorem eq_nil_of_step {bs : List UInt8} (h : step bs = none) : bs = [] := by
  rcases bs with _ | ⟨a, r⟩
  · rfl
  · unfold step at h
    grind

theorem encode_of_decodeFrom : ∀ (fuel : Nat) {bs : List UInt8} {s : List Char},
    bs.length ≤ fuel → decodeFrom? fuel bs = some s → encode s = bs
  | 0, bs, s, hf, h => by
    cases List.eq_nil_of_length_eq_zero (Nat.le_zero.1 hf)
    cases h
    rfl
  | fuel + 1, bs, s, hf, h => by
    unfold decodeFrom? at h
    cases hs : step bs with
    | none =>
      rw [hs] at h
      cases h
      rw [eq_nil_of_step hs]
      rfl
    | some p =>
      obtain ⟨_ | c, r⟩ := p
      · rw [hs] at h
        cases h
      · rw [hs] at h
        obtain ⟨t, ht, rfl⟩ := Option.map_eq_some_iff.1 h
        have hbs := encodeChar_of_step hs
        have hpos := List.length_pos_iff.2 (encodeChar_ne_nil c)
        rw [hbs, List.length_append] at hf
        rw [encode_cons, encode_of_decodeFrom fuel (by omega) ht, hbs]

/-- Well-formed bytes are those of the text that they are read as. -/
theorem encode_of_decode {bs : List UInt8} {s : List Char} (h : decode? bs = some s) :
    encode s = bs :=
  encode_of_decodeFrom _ (Nat.le_refl _) h

theorem decode_eq_some_iff {bs : List UInt8} {s : List Char} :
    decode? bs = some s ↔ encode s = bs :=
  ⟨encode_of_decode, fun h => h ▸ decode_encode s⟩

/-- Well-formed bytes are those of the text that they are read as, where any bytes are read. -/
theorem encode_decodeLossy {bs : List UInt8} (h : (decode? bs).isSome) :
    encode (decodeLossy bs) = bs := by
  obtain ⟨s, hs⟩ := Option.isSome_iff_exists.1 h
  rw [← encode_of_decode hs, decodeLossy_encode]

end UrlMask.Utf8
