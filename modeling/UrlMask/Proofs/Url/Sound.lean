import UrlMask.Proofs.Url.Authority
import UrlMask.Proofs.Url.Path
import UrlMask.Url.Key

/-!
# What holds of every URL that has been read

Each part of a URL that has been read holds only characters that stand for themselves there, and
the parts go together as the scheme asks. The steps that lead to a key keep all of this.

* `Sound`: what holds of every URL.
* `sound_of_parse`: it holds of what is read.
* `sound_normal`: it holds of the URL whose text is the key.
-/
namespace UrlMask.Url

open Percent (Stays EncodeSet)

def kind (u : Url) : SchemeKind := SchemeKind.ofScheme u.scheme

/-- A letter, and then letters, digits and three marks; no letter is a capital. -/
structure IsScheme (s : List Char) : Prop where
  head : s.head?.any Char.isAlpha = true
  mem : ∀ c ∈ s, isSchemeChar c = true ∧ c.toLower = c

/-- The characters that are encoded in a query. -/
def querySet (special : Bool) : EncodeSet :=
  if special then EncodeSet.specialQuery else EncodeSet.query

/-- A character of a path without structure. -/
def isPlain (c : Char) : Bool := c.toNat < 0x80 && !EncodeSet.control c && !endsPath c

/-- What holds of every URL that has been read. -/
structure Sound (u : Url) : Prop where
  scheme : IsScheme u.scheme
  authority : ∀ a, u.authority = some a → a.Sound u.kind u.scheme
  /-- Only other schemes do without an authority. -/
  hosted : u.authority = none → u.kind = .other
  plain : ∀ s, u.path = .plain s → u.authority = none ∧ (∀ c ∈ s, isPlain c = true) ∧
    s.head? ≠ some '/'
  segments : ∀ segs, u.path = .segments segs → ∀ s ∈ segs, Path.Segment u.kind.isSpecial s
  /-- Only behind a host of another scheme there can be no path. -/
  rooted : u.path = .segments [] → u.kind = .other ∧ u.authority ≠ none
  led : u.kind = .file → ∀ segs, u.path = .segments segs → Path.Led segs
  /-- Two slashes at the start of the path are taken for those before a host, unless they are
  guarded or stand behind one. -/
  guarded : u.guarded = true → u.authority = none ∧ ∃ r, u.path = .segments ([] :: r)
  unguarded : u.guarded = false → u.authority = none → ∀ s r, u.path ≠ .segments ([] :: s :: r)
  query : ∀ q, u.query = some q → ∀ c ∈ q, Stays (querySet u.kind.isSpecial) c
  fragment : ∀ f, u.fragment = some f → ∀ c ∈ f, Stays EncodeSet.fragment c

/-- No path behind an authority is guarded. -/
theorem Sound.not_guarded {u : Url} (h : u.Sound) (ha : u.authority ≠ none) :
    u.guarded = false := by
  cases hg : u.guarded with
  | false => rfl
  | true => exact absurd (h.guarded hg).1 ha

theorem Sound.authority_ne_none {u : Url} (h : u.Sound) (hk : u.kind ≠ .other) :
    u.authority ≠ none := fun ha => hk (h.hosted ha)

/-- Only a path of segments stands behind an authority. -/
theorem Sound.segments_of_authority {u : Url} (h : u.Sound) (ha : u.authority ≠ none) :
    ∃ segs, u.path = .segments segs := by
  cases hp : u.path with
  | plain s => exact absurd (h.plain s hp).1 ha
  | segments segs => exact ⟨segs, rfl⟩

/-! ## Parts that are read -/

theorem querySet_apart (special : Bool) : (querySet special).Apart := by
  cases special
  · exact EncodeSet.query_apart
  · exact EncodeSet.specialQuery_apart

/-- What becomes of a character of a scheme. -/
theorem isSchemeChar_toLower {c : Char} (h : isSchemeChar c = true) :
    isSchemeChar c.toLower = true ∧ c.toLower.toLower = c.toLower ∧
      (c.isAlpha = true → c.toLower.isAlpha = true) := by
  have ha : c.toNat < 0x80 := by
    simp only [isSchemeChar, Bool.or_eq_true, beq_iff_eq] at h
    rcases h with ((h | rfl) | rfl) | rfl
    · exact Form.ascii_of_isAlphanum h
    all_goals decide
  have := Utf8.forall_ascii (p := fun c => !isSchemeChar c || (isSchemeChar c.toLower &&
    c.toLower.toLower == c.toLower && (!c.isAlpha || c.toLower.isAlpha))) (by decide) ha
  simp only [h, Bool.not_true, Bool.false_or, Bool.and_eq_true, Bool.or_eq_true, beq_iff_eq,
    Bool.not_eq_true'] at this
  exact ⟨this.1.1, this.1.2, fun ha => this.2.resolve_left (by simp [ha])⟩

theorem isScheme_of_splitScheme {s scheme rest : List Char}
    (h : splitScheme s = some (scheme, rest)) : IsScheme scheme := by
  unfold splitScheme at h
  split at h
  · next ha =>
    split at h
    · simp only [Option.some.injEq, Prod.mk.injEq] at h
      obtain ⟨rfl, -⟩ := h
      refine ⟨?_, fun c hc => ?_⟩
      · cases s with
        | nil => cases ha
        | cons c s =>
          have ha : c.isAlpha = true := ha
          have hc : isSchemeChar c = true := by simp [isSchemeChar, Char.isAlphanum, ha]
          rw [List.takeWhile_cons, if_pos hc]
          exact (isSchemeChar_toLower hc).2.2 ha
      · obtain ⟨d, hd, rfl⟩ := List.mem_map.1 hc
        have hd := isSchemeChar_toLower (List.mem_takeWhile_imp hd)
        exact ⟨hd.1, hd.2.1⟩
    · cases h
  · cases h

/-- The fragment behind its mark. -/
def fragmentOf : List Char → Option (List Char)
  | '#' :: r => some (Percent.encode EncodeSet.fragment r)
  | _ => none

theorem tails_query (special : Bool) (r : List Char) : tails special ('?' :: r) =
    (some (Percent.encode (querySet special) (r.takeWhile (· != '#'))),
      fragmentOf (r.dropWhile (· != '#'))) := rfl

theorem tails_of_no_query (special : Bool) {s : List Char} (h : s.head? ≠ some '?') :
    tails special s = (none, fragmentOf s) := by
  unfold tails
  dsimp only
  split
  · exact absurd rfl h
  · rfl

/-- The query and the fragment hold no characters that are encoded there. -/
theorem stays_of_tails (special : Bool) (s : List Char) :
    (∀ q, (tails special s).1 = some q → ∀ c ∈ q, Stays (querySet special) c) ∧
      ∀ f, (tails special s).2 = some f → ∀ c ∈ f, Stays EncodeSet.fragment c := by
  have hfragment (t f : List Char) (hf : fragmentOf t = some f) :
      ∀ c ∈ f, Stays EncodeSet.fragment c := by
    unfold fragmentOf at hf
    split at hf
    · cases hf
      exact fun c hc => Percent.stays_of_mem EncodeSet.fragment_apart hc
    · cases hf
  by_cases hs : s.head? = some '?'
  · obtain ⟨r, rfl⟩ := List.head?_eq_some_iff.1 hs
    rw [tails_query]
    refine ⟨fun q hq => ?_, hfragment _⟩
    cases hq
    exact fun c hc => Percent.stays_of_mem (querySet_apart special) hc
  · rw [tails_of_no_query special hs]
    refine ⟨fun q hq => ?_, hfragment _⟩
    cases hq

/-- A URL is sound if its scheme, authority and path are. -/
theorem sound_finish {scheme : List Char} {authority : Option Authority} {path : UrlPath}
    {rest : List Char} (hs : IsScheme scheme)
    (ha : ∀ a, authority = some a → a.Sound (SchemeKind.ofScheme scheme) scheme)
    (hh : authority = none → SchemeKind.ofScheme scheme = .other)
    (hp : ∀ s, path = .plain s → authority = none ∧ (∀ c ∈ s, isPlain c = true) ∧
      s.head? ≠ some '/')
    (hsegs : ∀ segs, path = .segments segs →
      ∀ s ∈ segs, Path.Segment (SchemeKind.ofScheme scheme).isSpecial s)
    (hr : path = .segments [] → SchemeKind.ofScheme scheme = .other ∧ authority ≠ none)
    (hl : SchemeKind.ofScheme scheme = .file → ∀ segs, path = .segments segs → Path.Led segs) :
    (finish scheme authority path (SchemeKind.ofScheme scheme).isSpecial rest).Sound := by
  have ht := stays_of_tails (SchemeKind.ofScheme scheme).isSpecial rest
  refine ⟨hs, ha, hh, hp, hsegs, hr, hl, ?_, ?_, ht.1, ht.2⟩
  · intro hg
    unfold finish at hg ⊢
    dsimp only at hg ⊢
    split at hg
    · next s r => exact ⟨rfl, s :: r, rfl⟩
    · cases hg
  · intro hg hnone s r hpath
    cases hnone
    cases hpath
    cases hg

/-! ## Whole URLs -/

section Read

variable {scheme s : List Char} {u : Url}

theorem segment_of_pieces {special file : Bool} {t : List Char} :
    ∀ s ∈ Path.segments file (Path.pieces special t), Path.Segment special s :=
  Path.segment_of_mem_segments fun _ hs hu hh => Path.segment_of_mem_pieces hs hu hh

theorem sound_of_afterSlashes (hs : IsScheme scheme) (hk : SchemeKind.ofScheme scheme ≠ .file)
    (h : afterSlashes (SchemeKind.ofScheme scheme) scheme s = .ok u) : u.Sound := by
  obtain ⟨⟨a, rest⟩, ha, h⟩ := bind_ok.1 h
  cases h
  have ha := Authority.sound_of_readAuthority hk ha
  refine sound_finish hs (fun b hb => by cases hb; exact ha) (by simp) (by simp) ?_ ?_
    (by simp [hk])
  · intro segs hsegs
    cases hsegs
    split
    · simp
    · exact segment_of_pieces
  · intro hr
    refine ⟨?_, by simp⟩
    simp only [UrlPath.segments.injEq] at hr
    split at hr
    · next hsp =>
      -- only other schemes are not special
      cases hkind : SchemeKind.ofScheme scheme with
      | other => rfl
      | web => simp [hkind, SchemeKind.isSpecial] at hsp
      | file => exact absurd hkind hk
    · exact absurd hr (Path.segments_ne_nil (Path.pieces_ne_nil _ _))

theorem head_encode {set : EncodeSet} {t : List Char} {c : Char}
    (h : (Percent.encode set t).head? = some c) : c = '%' ∨ t.head? = some c := by
  cases t with
  | nil => cases h
  | cons d t =>
    change (Percent.encodeChar set d ++ Percent.encode set t).head? = some c at h
    unfold Percent.encodeChar at h
    split at h
    · exact Or.inr h
    · refine Or.inl ?_
      cases hd : String.utf8EncodeChar d with
      | nil => exact absurd hd (Utf8.encodeChar_ne_nil d)
      | cons b bs =>
        rw [hd] at h
        simpa [Percent.encodeByte] using h.symm

theorem isPlain_of_mem {c : Char} (h : c ∈ Percent.encode EncodeSet.control
    (s.takeWhile fun c => !endsPath c)) : isPlain c = true := by
  have hc := Percent.stays_of_mem EncodeSet.control_apart h
  have he : endsPath c = false := by
    rcases Percent.mem_encode h with ⟨h, -⟩ | h
    · simpa using List.mem_takeWhile_imp h
    · have := Utf8.forall_ascii (p := fun c => !Percent.isCode c || !endsPath c) (by decide)
        (Percent.ascii_of_isCode h)
      simpa [h] using this
  simp [isPlain, hc.1, hc.2, he]

theorem sound_of_ofOther (hs : IsScheme scheme) (hk : SchemeKind.ofScheme scheme = .other)
    (h : ofOther scheme s = .ok u) : u.Sound := by
  have hsp : (SchemeKind.ofScheme scheme).isSpecial = false := by rw [hk]; rfl
  unfold ofOther at h
  split at h
  · rw [← hk] at h
    exact sound_of_afterSlashes hs (by simp [hk]) h
  · cases h
    rw [← hsp]
    refine sound_finish hs (by simp) (fun _ => hk) (by simp) ?_ ?_ (by simp [hk])
    · intro segs hsegs
      cases hsegs
      rw [hsp]
      exact segment_of_pieces
    · intro hr
      exact absurd (UrlPath.segments.inj hr) (Path.segments_ne_nil (Path.pieces_ne_nil _ _))
  · next hslash =>
    cases h
    rw [← hsp]
    refine sound_finish hs (by simp) (fun _ => hk) ?_ (by simp) (by simp) (by simp)
    intro t ht
    cases ht
    refine ⟨rfl, fun c hc => isPlain_of_mem hc, ?_⟩
    intro hh
    rcases head_encode hh with h | h
    · cases h
    · cases s with
      | nil => cases h
      | cons c s =>
        rw [List.takeWhile_cons] at h
        split at h
        · cases h
          exact hslash s rfl
        · cases h

theorem sound_fileOn (hs : IsScheme scheme) (hk : SchemeKind.ofScheme scheme = .file) {host : Host}
    (hh : host.Sound true) (hl : host ≠ .name "localhost".toList) :
    (fileOn scheme host s).Sound := by
  have hsp : (SchemeKind.ofScheme scheme).isSpecial = true := by rw [hk]; rfl
  unfold fileOn
  dsimp only
  rw [← hsp]
  refine sound_finish hs ?_ (by simp) (by simp) ?_ ?_ ?_
  · intro a ha
    cases ha
    rw [hk]
    split
    · exact ⟨by simp, by simp, ⟨by simp, fun _ => rfl⟩, by simp, by simp, by simp,
        fun _ => ⟨rfl, rfl, rfl, by decide⟩⟩
    · exact ⟨by simp, by simp, hh, by simp, by simp, by simp, fun _ => ⟨rfl, rfl, rfl, hl⟩⟩
  · intro segs hsegs
    cases hsegs
    rw [hsp]
    exact segment_of_pieces
  · intro hr
    exact absurd (UrlPath.segments.inj hr) (Path.segments_ne_nil (Path.pieces_ne_nil _ _))
  · intro _ segs hsegs
    cases hsegs
    rw [hsp]
    exact Path.led_segments _

theorem sound_none (special : Bool) : Host.none.Sound special :=
  ⟨by simp, fun _ => rfl⟩

theorem sound_of_fileHost {t : List Char} {host : Host} (h : fileHost t = .ok host) :
    host.Sound true ∧ host ≠ .name "localhost".toList := by
  unfold fileHost at h
  split at h
  · cases h
    exact ⟨sound_none true, by decide⟩
  · split at h
    · next g hg =>
      cases h
      split
      · exact ⟨sound_none true, by decide⟩
      · next hl => exact ⟨(Host.sound_of_ofWeb hg).1, hl⟩
    · cases h

theorem sound_of_ofFile (hs : IsScheme scheme) (hk : SchemeKind.ofScheme scheme = .file)
    (h : ofFile scheme s = .ok u) : u.Sound := by
  have hnone {t : List Char} : (fileOn scheme Host.none t).Sound :=
    sound_fileOn hs hk (sound_none true) (by decide)
  unfold ofFile at h
  dsimp only at h
  split at h
  · split at h
    · split at h
      · cases h
        exact hnone
      · obtain ⟨host, hhost, h⟩ := bind_ok.1 h
        obtain ⟨hsound, hl⟩ := sound_of_fileHost hhost
        split at h <;> cases h <;> exact sound_fileOn hs hk hsound hl
    · cases h
      exact hnone
  · cases h
    exact hnone

/-- What holds of every URL that is read. -/
theorem sound_of_parse (h : parse s = .ok u) : u.Sound := by
  unfold parse at h
  split at h
  · cases h
  · next scheme rest hscheme =>
    have hs := isScheme_of_splitScheme hscheme
    split at h
    · next hk =>
      rw [← hk] at h
      exact sound_of_afterSlashes hs (by simp [hk]) h
    · next hk => exact sound_of_ofFile hs hk h
    · next hk => exact sound_of_ofOther hs hk h

end Read

/-! ## The steps to a key -/

section Steps

variable {u : Url}

theorem isFile_iff : (SchemeKind.ofScheme u.scheme == .file) = true ↔ u.kind = .file := by
  simp [kind]

theorem head_ne_of_prefix {s t : List Char} (h : s <+: t) (ht : t.head? ≠ some '/') :
    s.head? ≠ some '/' := by
  obtain ⟨r, rfl⟩ := h
  cases s with
  | nil => simp
  | cons c s => simpa using ht

/-- A plain path may be cut short. -/
theorem Sound.cut (h : u.Sound) {s t : List Char} (hp : u.path = .plain s) (ht : t <+: s) :
    ({ u with path := .plain t } : Url).Sound := by
  obtain ⟨ha, hs, hh⟩ := h.plain s hp
  refine { h with
    plain := ?_
    segments := by simp
    rooted := by simp
    led := by simp
    guarded := ?_
    unguarded := by simp }
  · intro t' ht'
    cases ht'
    exact ⟨ha, fun c hc => hs c (ht.subset hc), head_ne_of_prefix ht hh⟩
  · intro hg
    obtain ⟨-, r, hr⟩ := h.guarded hg
    rw [hp] at hr
    cases hr

theorem settled_of_segments {u : Url} {segs : List (List Char)} (hp : u.path = .segments segs) :
    settled u = u := by
  unfold settled
  split
  · next h _ _ => rw [hp] at h; cases h
  · rfl

theorem settled_of_blank {u : Url}
    (hb : u.query = none → u.fragment = none → ∀ s, u.path = .plain s → s.getLast? ≠ some ' ') :
    settled u = u := by
  unfold settled
  split
  · next s hp hq hf =>
    have hs : s.rdropWhile (· == ' ') = s := by
      refine Span.rdropWhile_eq_self_iff.2 fun c hc => beq_eq_false_iff_ne.2 ?_
      rintro rfl
      exact hb hq hf s hp hc
    change { u with path := .plain (s.rdropWhile (· == ' ')) } = u
    rw [hs, ← hp]
  · rfl

/-- No blank is left at the end. -/
theorem not_blank_settled (u : Url) : (settled u).query = none → (settled u).fragment = none →
    ∀ s, (settled u).path = .plain s → s.getLast? ≠ some ' ' := by
  unfold settled
  split
  · next s _ _ _ =>
    intro _ _ t ht hl
    cases ht
    cases Span.last_of_rdropWhile (p := (· == ' ')) (l := s) hl
  · next h =>
    intro hq hf s hp
    exact (h s hp hq hf).elim

/-- Only blanks at the end are left out. -/
theorem text_settled (u : Url) : ∃ b, (∀ c ∈ b, c = ' ') ∧ u.text = (settled u).text ++ b := by
  unfold settled
  split
  · next s hp hq hf =>
    refine ⟨s.rtakeWhile (· == ' '), fun c hc => ?_, ?_⟩
    · simpa using List.mem_rtakeWhile_imp hc
    · have hs : s.rdropWhile (· == ' ') ++ s.rtakeWhile (· == ' ') = s :=
        List.rdropWhile_append_rtakeWhile
      have hpath : u.path.text = (UrlPath.plain (s.rdropWhile (· == ' '))).text ++
          s.rtakeWhile (· == ' ') := by
        rw [hp]
        exact hs.symm
      simp only [text, hpath, hq, hf, marked, List.append_nil, List.append_assoc, List.cons_append]
      rfl
  · exact ⟨[], by simp, by simp⟩

theorem sound_settled (h : u.Sound) : (settled u).Sound := by
  unfold settled
  split
  · next s hp _ _ => exact h.cut hp (List.rdropWhile_prefix _ s)
  · exact h

theorem sound_withoutFragment (h : u.Sound) : (withoutFragment u).Sound :=
  sound_settled { h with fragment := by simp }

theorem stays_of_mem_write {ps : List Form.Pair} {c : Char} (h : c ∈ Form.write ps)
    (special : Bool) : Stays (querySet special) c := by
  have hc : (Form.isWritten c || c == '&' || c == '=') = true := by
    rcases Form.mem_write h with h | rfl | rfl
    · simp [h]
    · rfl
    · rfl
  have ha : c.toNat < 0x80 := by
    rcases Form.mem_write h with h | rfl | rfl
    · exact Form.ascii_of_isWritten h
    · decide
    · decide
  have := Utf8.forall_ascii (p := fun c => !(Form.isWritten c || c == '&' || c == '=') ||
    (!querySet true c && !querySet false c)) (by decide) ha
  simp only [hc, Bool.not_true, Bool.false_or, Bool.and_eq_true, Bool.not_eq_true'] at this
  cases special
  · exact ⟨ha, this.2⟩
  · exact ⟨ha, this.1⟩

theorem sound_withSortedQuery (h : u.Sound) : (withSortedQuery u).Sound := by
  unfold withSortedQuery
  split
  · exact sound_settled { h with query := by simp }
  · refine { h with query := fun q hq => ?_ }
    cases hq
    exact fun c hc => stays_of_mem_write hc _

theorem sound_withTrimmedPath (h : u.Sound) : (withTrimmedPath u).Sound := by
  unfold withTrimmedPath
  split
  · next s hp =>
    split
    · exact h.cut hp (List.rdropWhile_prefix _ s)
    · exact h
  · next segs hp =>
    split
    · have hsegs := h.segments segs hp
      have htrim : ∀ s ∈ Path.trimmed segs, Path.Segment u.kind.isSpecial s := by
        intro s hs
        rcases Path.mem_trimmed hs with rfl | hs
        · exact Path.Segment.nil _
        · exact hsegs s hs
      -- without an authority the scheme is another one, and trimmed segments stay
      have hother (ha : u.authority = none) :
          Path.segments (SchemeKind.ofScheme u.scheme == .file) (Path.trimmed segs) =
            Path.trimmed segs := by
        rw [show SchemeKind.ofScheme u.scheme = .other from h.hosted ha]
        exact Path.segments_eq_self htrim (Path.trimmed_ne_nil segs) (by simp) (by simp)
      dsimp only
      refine { h with
        plain := by simp
        segments := ?_
        rooted := ?_
        led := ?_
        guarded := ?_
        unguarded := ?_ }
      · intro segs' hp'
        cases hp'
        exact Path.segment_of_mem_segments fun s hs _ _ => htrim s hs
      · intro hr
        exact absurd (UrlPath.segments.inj hr) (Path.segments_ne_nil (Path.trimmed_ne_nil segs))
      · intro hk segs' hp'
        cases hp'
        rw [isFile_iff.2 hk]
        exact Path.led_segments _
      · intro hg
        obtain ⟨ha, r, hr⟩ := h.guarded hg
        rw [hp] at hr
        cases hr
        obtain ⟨q, hq⟩ := Path.exists_trimmed_cons r
        exact ⟨ha, q, congrArg UrlPath.segments ((hother ha).trans hq)⟩
      · intro hg ha s r hp'
        have hp' := UrlPath.segments.inj hp'
        rw [hother ha] at hp'
        obtain ⟨t, ht⟩ := Path.prefix_of_trimmed hp'
        exact h.unguarded hg ha s (r ++ t) (by rw [hp, ← ht]; rfl)
    · exact h

/-- What holds of every URL holds of the one whose text is the key. -/
theorem sound_normal (h : u.Sound) (k : Bool) : (normal k u).Sound := by
  unfold normal
  dsimp only
  refine sound_withTrimmedPath (sound_withSortedQuery ?_)
  split
  · exact h
  · exact sound_withoutFragment h

end Steps

end UrlMask.Url
