import UrlMask.Proofs.Text.Utf8
import UrlMask.Url.Percent

/-!
# Percent encoding, once and back

What has been encoded holds no character of the set any more, so that encoding it again changes
nothing; and a byte is read back from its code.

* `mem_encode`: what an encoded text is made of.
* `encode_eq_self`: a text without characters of the set stays.
* `decodeBytes_encodeByte`: the code of a byte is read as that byte.
-/
namespace UrlMask.Percent

open Utf8 (byte)

/-- An ASCII character that is not in the set. -/
def Stays (s : EncodeSet) (c : Char) : Prop := c.toNat < 0x80 ∧ s c = false

/-- A character that the code of a byte can hold. -/
def isCode (c : Char) : Bool := c == '%' || ('0' ≤ c && c ≤ '9') || ('A' ≤ c && c ≤ 'F')

theorem isCode_hexChar {n : Nat} (h : n < 16) : isCode (hexChar n) = true := by
  have := (by decide : ∀ i : Fin 16, isCode (hexChar i.val) = true)
  exact this ⟨n, h⟩

theorem ascii_of_isCode {c : Char} (h : isCode c = true) : c.toNat < 0x80 := by
  simp only [isCode, Bool.or_eq_true, Bool.and_eq_true, beq_iff_eq, decide_eq_true_eq] at h
  rcases h with (rfl | ⟨-, h⟩) | ⟨-, h⟩
  · decide
  · have : c.toNat ≤ 57 := h
    omega
  · have : c.toNat ≤ 70 := h
    omega

theorem isCode_of_mem {b : UInt8} {c : Char} (h : c ∈ encodeByte b) : isCode c = true := by
  have hb := b.toNat_lt
  simp only [encodeByte, List.mem_cons, List.not_mem_nil, or_false] at h
  rcases h with rfl | rfl | rfl
  · decide
  · exact isCode_hexChar (by omega)
  · exact isCode_hexChar (by omega)

/-! ## Encoding -/

variable {s : EncodeSet}

/-- Every character of an encoded text was there and is not in the set, or belongs to a code. -/
theorem mem_encode {t : List Char} {c : Char} (h : c ∈ encode s t) :
    (c ∈ t ∧ Stays s c) ∨ isCode c = true := by
  obtain ⟨d, hd, hc⟩ := List.mem_flatMap.1 h
  unfold encodeChar at hc
  split at hc
  · next hs =>
    cases List.mem_singleton.1 hc
    simp only [Bool.and_eq_true, decide_eq_true_eq, Bool.not_eq_true'] at hs
    exact Or.inl ⟨hd, hs⟩
  · obtain ⟨b, -, hc⟩ := List.mem_flatMap.1 hc
    exact Or.inr (isCode_of_mem hc)

/-- A set whose characters no code holds. -/
def EncodeSet.Apart (s : EncodeSet) : Prop := ∀ c, isCode c = true → s c = false

theorem EncodeSet.apart {s : EncodeSet} (h : Utf8.HoldsOnAscii fun c => !isCode c || !s c) :
    s.Apart := by
  intro c hc
  have := Utf8.forall_ascii (p := fun c => !isCode c || !s c) h (ascii_of_isCode hc)
  simpa [hc] using this

/-- With a set its subsets are apart from the codes. -/
theorem EncodeSet.Apart.mono {s t : EncodeSet} (ht : t.Apart) (h : ∀ c, s c = true → t c = true) :
    s.Apart := fun c hc =>
  Bool.eq_false_iff.2 fun hs => Bool.eq_false_iff.1 (ht c hc) (h c hs)

theorem EncodeSet.userinfo_apart : EncodeSet.userinfo.Apart := EncodeSet.apart (by decide)

theorem EncodeSet.path_apart : EncodeSet.path.Apart :=
  userinfo_apart.mono fun c h => by simp [userinfo, h]

theorem EncodeSet.fragment_apart : EncodeSet.fragment.Apart :=
  path_apart.mono fun c h => by simp [path, h]

theorem EncodeSet.control_apart : EncodeSet.control.Apart :=
  fragment_apart.mono fun c h => by simp [fragment, h]

theorem EncodeSet.specialQuery_apart : EncodeSet.specialQuery.Apart :=
  EncodeSet.apart (by decide)

theorem EncodeSet.query_apart : EncodeSet.query.Apart :=
  specialQuery_apart.mono fun c h => by simp [specialQuery, h]

/-- An encoded text holds no character of the set. -/
theorem stays_of_mem (hs : s.Apart) {t : List Char} {c : Char} (h : c ∈ encode s t) :
    Stays s c := by
  rcases mem_encode h with ⟨-, h⟩ | h
  · exact h
  · exact ⟨ascii_of_isCode h, hs c h⟩

/-- A text without characters of the set stays. -/
theorem encode_eq_self {t : List Char} (h : ∀ c ∈ t, Stays s c) : encode s t = t := by
  induction t with
  | nil => rfl
  | cons c t ih =>
    obtain ⟨ha, hc⟩ := h c (by simp)
    have hd : (c.toNat < 0x80 && !s c : Bool) = true := by simp [ha, hc]
    show encodeChar s c ++ encode s t = c :: t
    rw [ih fun d hd => h d (by simp [hd]), encodeChar, if_pos hd]
    rfl

theorem encodeChar_ne_nil (c : Char) : encodeChar s c ≠ [] := by
  unfold encodeChar
  split
  · simp
  · cases hb : String.utf8EncodeChar c with
    | nil => exact absurd hb (Utf8.encodeChar_ne_nil c)
    | cons b bs => simp [encodeByte]

theorem encode_eq_nil {t : List Char} : encode s t = [] ↔ t = [] := by
  cases t with
  | nil => simp [encode]
  | cons c t => simp [encode, encodeChar_ne_nil]

/-! ## Decoding -/

theorem hexValue?_hexChar {n : Nat} (h : n < 16) : hexValue? (byte (hexChar n)) = some n := by
  have := (by decide : ∀ i : Fin 16, hexValue? (byte (hexChar i.val)) = some i.val)
  exact this ⟨n, h⟩

theorem decodeBytes_cons {b : UInt8} (hb : b ≠ 0x25) (r : List UInt8) :
    decodeBytes (b :: r) = b :: decodeBytes r := by
  rcases r with _ | ⟨x, _ | ⟨y, r⟩⟩
  · rw [decodeBytes]
    simp
  · rw [decodeBytes]
    simp
  · rw [decodeBytes]
    intro a b' r' h
    exact absurd h hb

/-- The code of a byte is read as that byte. -/
theorem decodeBytes_encodeByte (b : UInt8) (r : List UInt8) :
    decodeBytes ((encodeByte b).map byte ++ r) = b :: decodeBytes r := by
  have hb := b.toNat_lt
  show decodeBytes (0x25 :: byte (hexChar (b.toNat / 16)) :: byte (hexChar (b.toNat % 16)) :: r) = _
  rw [decodeBytes, hexValue?_hexChar (by omega), hexValue?_hexChar (by omega)]
  show UInt8.ofNat (b.toNat / 16 * 16 + b.toNat % 16) :: decodeBytes r = _
  rw [show b.toNat / 16 * 16 + b.toNat % 16 = b.toNat by omega, UInt8.ofNat_toNat]

theorem decodeBytes_encodeBytes (bs r : List UInt8) :
    decodeBytes ((bs.flatMap encodeByte).map byte ++ r) = bs ++ decodeBytes r := by
  induction bs with
  | nil => rfl
  | cons b bs ih =>
    rw [List.flatMap_cons, List.map_append, List.append_assoc, decodeBytes_encodeByte, ih]
    rfl

/-- ASCII without a percent sign stands for itself. -/
theorem decode_ascii {t : List Char} (ha : ∀ c ∈ t, c.toNat < 0x80) (hp : ∀ c ∈ t, c ≠ '%') :
    decode t = t.map byte := by
  rw [decode, Utf8.encode_ascii ha]
  induction t with
  | nil => rfl
  | cons c t ih =>
    have hc : byte c ≠ 0x25 := by
      intro h
      have h : (byte c).toNat = 0x25 := congrArg UInt8.toNat h
      rw [byte, Utf8.toNat_byte (show c.toNat < 256 from by have := ha c (by simp); omega)] at h
      exact hp c (by simp) (Char.toNat_inj.1 h)
    rw [List.map_cons, decodeBytes_cons hc, ih (fun d hd => ha d (by simp [hd]))
      (fun d hd => hp d (by simp [hd]))]

end UrlMask.Percent
