import UrlMask.Proofs.Url.Address
import UrlMask.Proofs.Url.DomainName
import UrlMask.Url.Host

/-!
# Hosts, written and read

The text of a host shows which host it is, and no character of it outside square brackets takes
part in cutting a URL. A host is read back from its text, provided that its name is mapped to
itself where names are domain names.

* `sound_of_ofWeb`, `sound_of_ofOther`: what is read as a host.
* `text_injective`: hosts of one text are the same.
* `ofWeb_text`, `ofOther_text`: a host is read back.
-/
namespace UrlMask.Url.Host

open Percent (Stays EncodeSet)

/-- A character of a host name; in special schemes names are domain names. -/
def isNameChar (special : Bool) (c : Char) : Bool :=
  if special then DomainName.isAllowed c
  else c.toNat < 0x80 && !isSeparator c && !EncodeSet.control c

/-- A visible ASCII character that no part of a URL begins or ends with. -/
def isFree (c : Char) : Bool :=
  0x20 < c.toNat && c.toNat < 0x80 &&
    !(['#', '/', ':', '?', '@', '[', '\\', ']', '|'].contains c)

theorem isFree_of_isNameChar {special : Bool} {c : Char} (h : isNameChar special c = true) :
    isFree c = true := by
  cases special with
  | true =>
    have ha : c.toNat < 0x80 := by
      simp only [isNameChar, DomainName.isAllowed, if_true, Bool.and_eq_true,
        decide_eq_true_eq] at h
      exact h.1
    have := Utf8.forall_ascii (p := fun c => !isNameChar true c || isFree c) (by decide) ha
    simpa [h] using this
  | false =>
    have ha : c.toNat < 0x80 := by
      simp only [isNameChar, Bool.false_eq_true, if_false, Bool.and_eq_true, decide_eq_true_eq] at h
      exact h.1.1
    have := Utf8.forall_ascii (p := fun c => !isNameChar false c || isFree c) (by decide) ha
    simpa [h] using this

/-- What hosts are read: names of characters that names hold, and addresses of the right size. -/
def Sound (special : Bool) : Host → Prop
  | name d => (∀ c ∈ d, isNameChar special c = true) ∧ (special = true → Ipv4.isMeant d = false)
  | ipv4 a => special = true ∧ a < 4294967296
  | ipv6 ps => Ipv6.Sound ps

/-! ## What is read -/

section Read

variable {s : List Char} {h : Host}

theorem sound_of_ofBracketed {special : Bool} (hr : ofBracketed s = .ok h) :
    h.Sound special ∧ h ≠ none := by
  unfold ofBracketed at hr
  split at hr
  · split at hr
    · next ps hps =>
      cases hr
      exact ⟨Ipv6.sound_of_parse hps, by simp [none]⟩
    · cases hr
  · cases hr

/-- What is read as the host of a URL of the web. -/
theorem sound_of_ofWeb (hr : ofWeb s = .ok h) : h.Sound true ∧ h ≠ none := by
  unfold ofWeb at hr
  split at hr
  · exact sound_of_ofBracketed hr
  · split at hr
    · cases hr
    · cases hr
    · next d hd hmap =>
      split at hr
      · split at hr
        · next a ha =>
          cases hr
          exact ⟨⟨rfl, Ipv4.lt_of_parse ha⟩, by simp [none]⟩
        · cases hr
      · next hm =>
        cases hr
        refine ⟨⟨fun c hc => DomainName.allowed_of_toAscii hmap c hc, fun _ => ?_⟩, ?_⟩
        · exact Bool.eq_false_iff.2 hm
        · intro he
          cases he
          exact hd rfl

/-- What is read as the host of a URL of any other scheme. -/
theorem sound_of_ofOther (hr : ofOther s = .ok h) : h.Sound false := by
  unfold ofOther at hr
  split at hr
  · exact (sound_of_ofBracketed hr).1
  · split at hr
    · cases hr
    · next hs =>
      cases hr
      refine ⟨fun c hc => ?_, by simp⟩
      have hstays := Percent.stays_of_mem EncodeSet.control_apart hc
      have hsep : isSeparator c = false := by
        rcases Percent.mem_encode hc with ⟨hc, -⟩ | hc
        · exact Bool.eq_false_iff.2 fun h => hs (List.any_eq_true.2 ⟨c, hc, h⟩)
        · have := Utf8.forall_ascii (p := fun c => !Percent.isCode c || !isSeparator c)
            (by decide) (Percent.ascii_of_isCode hc)
          simpa [hc] using this
      simp [isNameChar, hstays.1, hstays.2, hsep]

end Read

/-! ## Texts -/

/-- The text of a host is free of separators, or stands in square brackets. -/
theorem text_cases {special : Bool} {h : Host} (hs : h.Sound special) :
    (∀ c ∈ h.text, isFree c = true) ∨
      ∃ s, h.text = '[' :: (s ++ [']']) ∧ ∀ c ∈ s, Ipv4.isHex c = true ∨ c = ':' := by
  cases h with
  | name d => exact Or.inl fun c hc => isFree_of_isNameChar (hs.1 c hc)
  | ipv4 a =>
    refine Or.inl fun c hc => ?_
    have hd := Ipv4.isDotted_of_mem hc
    have := Utf8.forall_ascii (p := fun c => !Ipv4.isDotted c || isFree c) (by decide)
      (Ipv4.ascii_of_isDotted hd)
    simpa [hd] using this
  | ipv6 ps => exact Or.inr ⟨Ipv6.text ps, rfl, fun c hc => Ipv6.mem_text hc⟩

theorem text_ipv4_ne_nil (a : Nat) : Ipv4.text a ≠ [] := by
  rw [Ipv4.text_eq]
  simp [Nat.toDigits_ne_nil]

theorem head_text_name {special : Bool} {h : Host} (hs : h.Sound special)
    (hne : ∀ ps, h ≠ ipv6 ps) : h.text.head? ≠ some '[' := by
  intro hh
  rcases text_cases hs with hf | ⟨s, ht, -⟩
  · have := hf '[' (List.mem_of_mem_head? hh)
    cases this
  · cases h with
    | name d =>
      have := isFree_of_isNameChar (hs.1 '[' (List.mem_of_mem_head? hh))
      cases this
    | ipv4 a =>
      have : '[' ∈ Ipv4.text a := List.mem_of_mem_head? hh
      cases Ipv4.isDotted_of_mem this
    | ipv6 ps => exact hne ps rfl

theorem text_eq_nil {special : Bool} {h : Host} (hs : h.Sound special) :
    h.text = [] ↔ h = none := by
  cases h with
  | name d => simp [text, none]
  | ipv4 a => simp [text, none, text_ipv4_ne_nil]
  | ipv6 ps => simp [text, none]

/-- The text of a host shows which host it is. -/
theorem text_injective {special : Bool} {h h' : Host} (hs : h.Sound special)
    (hs' : h'.Sound special) (ht : h.text = h'.text) : h = h' := by
  have hbracket {g g' : Host} (hg : g.Sound special) (hg' : g'.Sound special)
      (ht : g.text = g'.text) (hne : ∀ ps, g ≠ ipv6 ps) : ∀ ps, g' ≠ ipv6 ps := by
    rintro ps rfl
    refine head_text_name hg hne ?_
    rw [ht]
    rfl
  have hmeant {d : List Char} {a : Nat} (hd : (name d).Sound special)
      (ha : (ipv4 a).Sound special) : d ≠ Ipv4.text a := by
    rintro rfl
    have := hd.2 ha.1
    rw [Ipv4.isMeant_text] at this
    cases this
  cases h with
  | name d =>
    cases h' with
    | name d' => exact congrArg name ht
    | ipv4 a => exact absurd ht (hmeant hs hs')
    | ipv6 ps => exact absurd rfl (hbracket hs hs' ht (by simp) ps)
  | ipv4 a =>
    cases h' with
    | name d => exact absurd ht.symm (hmeant hs' hs)
    | ipv4 a' =>
      have := Ipv4.parse_text hs.2
      rw [show Ipv4.text a = Ipv4.text a' from ht, Ipv4.parse_text hs'.2] at this
      rw [Option.some.inj this]
    | ipv6 ps => exact absurd rfl (hbracket hs hs' ht (by simp) ps)
  | ipv6 ps =>
    cases h' with
    | name d => exact absurd rfl (hbracket hs' hs ht.symm (by simp) ps)
    | ipv4 a => exact absurd rfl (hbracket hs' hs ht.symm (by simp) ps)
    | ipv6 ps' =>
      have ht : Ipv6.text ps = Ipv6.text ps' := by simpa [text] using ht
      have := Ipv6.parse_text hs
      rw [ht, Ipv6.parse_text hs'] at this
      rw [Option.some.inj this]

/-! ## Reading texts -/

theorem ofBracketed_text {ps : List Nat} (h : Ipv6.Sound ps) :
    ofBracketed (Ipv6.text ps ++ [']']) = .ok (ipv6 ps) := by
  unfold ofBracketed
  rw [if_pos (by simp), List.dropLast_concat, Ipv6.parse_text h]

/-- A name that holds what domain names hold is read as what it is mapped to. -/
theorem ofWeb_of_allowed {d : List Char} (h : ∀ c ∈ d, DomainName.isAllowed c = true) :
    ofWeb d = match DomainName.toAscii d with
      | .none => .error .domainName
      | some [] => .error .emptyHost
      | some e =>
        if Ipv4.isMeant e then
          match Ipv4.parse e with
          | some a => .ok (.ipv4 a)
          | .none => .error .ipv4
        else .ok (.name e) := by
  have hd : Utf8.decodeLossy (Percent.decode d) = d := by
    have ha : ∀ c ∈ d, c.toNat < 0x80 := fun c hc => by
      have := h c hc
      simp only [DomainName.isAllowed, Bool.and_eq_true, decide_eq_true_eq] at this
      exact this.1
    rw [Percent.decode_ascii ha, Utf8.decodeLossy_ascii ha]
    rintro c hc rfl
    cases h '%' hc
  unfold ofWeb
  split
  · next r =>
    cases h '[' (by simp)
  · generalize Utf8.decodeLossy (Percent.decode d) = e at hd ⊢
    subst hd
    rfl

theorem toAscii_of_ofWeb {d e : List Char} (h : ∀ c ∈ d, DomainName.isAllowed c = true)
    (hr : ofWeb d = .ok (name e)) : DomainName.toAscii d = some e := by
  rw [ofWeb_of_allowed h] at hr
  split at hr
  · cases hr
  · cases hr
  · next e' he =>
    split at hr
    · split at hr <;> cases hr
    · cases hr
      exact he

/-- Only names with capitals or Punycode need a look at what they are mapped to. -/
theorem toAscii_name {d : List Char} (h : (name d).Sound true)
    (hm : DomainName.isMarked d = true → DomainName.toAscii d = some d) :
    DomainName.toAscii d = some d := by
  cases hd : DomainName.isMarked d with
  | true => exact hm hd
  | false => exact DomainName.toAscii_eq_self (fun c hc => h.1 c hc) hd

/-- A host of a URL of the web is read back, if a name is mapped to itself. -/
theorem ofWeb_text {h : Host} (hs : h.Sound true) (hne : h ≠ none)
    (hd : ∀ d, h = name d → DomainName.toAscii d = some d) : ofWeb h.text = .ok h := by
  cases h with
  | name d =>
    rw [text, ofWeb_of_allowed fun c hc => hs.1 c hc, hd d rfl]
    cases d with
    | nil => exact absurd rfl hne
    | cons c d =>
      show (if Ipv4.isMeant (c :: d) = true then _ else _) = _
      rw [hs.2 rfl]
      rfl
  | ipv4 a =>
    have hall : ∀ c ∈ Ipv4.text a, DomainName.isAllowed c = true ∧ c.isUpper = false ∧ c ≠ 'x' := by
      intro c hc
      have hd := Ipv4.isDotted_of_mem hc
      have := Utf8.forall_ascii (p := fun c => !Ipv4.isDotted c ||
        (DomainName.isAllowed c && !c.isUpper && c != 'x')) (by decide)
        (Ipv4.ascii_of_isDotted hd)
      simpa [hd, and_assoc] using this
    have hmark : DomainName.isMarked (Ipv4.text a) = false := by
      rw [DomainName.isMarked, Bool.or_eq_false_iff, List.any_eq_false, List.any_eq_false]
      refine ⟨fun c hc => by simp [(hall c hc).2.1], fun p hp hmark => ?_⟩
      have hx : 'x' ∈ p :=
        (List.isPrefixOf_iff_prefix.1 hmark).subset (by simp [DomainName.punycodeMark])
      exact (hall 'x' ((Form.mem_splitOn hp).2 _ hx)).2.2 rfl
    rw [text, ofWeb_of_allowed fun c hc => (hall c hc).1,
      DomainName.toAscii_eq_self (fun c hc => (hall c hc).1) hmark]
    split
    · next h => cases h
    · next h => exact absurd (Option.some.inj h) (text_ipv4_ne_nil a)
    · next h =>
      cases h
      rw [Ipv4.isMeant_text, if_pos rfl, Ipv4.parse_text hs.2]
  | ipv6 ps => exact ofBracketed_text hs

/-- A host of a URL of any other scheme is read back. -/
theorem ofOther_text {h : Host} (hs : h.Sound false) : ofOther h.text = .ok h := by
  cases h with
  | name d =>
    have hall : ∀ c ∈ d, isSeparator c = false ∧ Stays EncodeSet.control c := by
      intro c hc
      have := hs.1 c hc
      simp only [isNameChar, Bool.false_eq_true, if_false, Bool.and_eq_true, decide_eq_true_eq,
        Bool.not_eq_true'] at this
      exact ⟨this.1.2, this.1.1, this.2⟩
    have hany : d.any isSeparator = false := by
      simp only [List.any_eq_false]
      exact fun c hc => by simp [(hall c hc).1]
    unfold ofOther
    split
    · next heq =>
      have : '[' ∈ d := by rw [show d = '[' :: _ from heq]; simp
      cases (hall '[' this).1
    · rw [text, hany, Percent.encode_eq_self fun c hc => (hall c hc).2]
      rfl
  | ipv4 a => cases hs.1
  | ipv6 ps => exact ofBracketed_text hs

end UrlMask.Url.Host
