import UrlMask.Proofs.Url.Normal

/-!
# URLs that share a key

The key of a URL with an authority shows all its parts, but for the order of the query pairs and
the slashes at the end of the path. Pairs are compared as texts: bytes that are no text are all
alike. A drive letter with a bar at the start of a path keeps the bar only as long as no slash is
taken away from the end.

* `uniqueKey_eq_iff`: which URLs share a key.
* `alike_of_uniqueKey_eq`: what URLs have in common that share a key.
* `uniqueKey_eq_of_alike`: what is enough for URLs to share a key.
-/
namespace UrlMask

namespace Form

/-- The pairs of a query in bytes, before these are taken for texts. -/
def rawPairs (query : List Char) : List (List UInt8 × List UInt8) :=
  (pieces query).map fun p => (cut '=' p).map rawBytes rawBytes

/-- Whether the bytes of every name and value are well-formed. -/
def IsText (query : List Char) : Prop :=
  ∀ p ∈ rawPairs query, (Utf8.decode? p.1).isSome ∧ (Utf8.decode? p.2).isSome

instance (query : List Char) : Decidable (IsText query) :=
  inferInstanceAs (Decidable (∀ p ∈ rawPairs query, _))

theorem pairs_eq (query : List Char) : pairs query =
    (rawPairs query).map (Prod.map Utf8.decodeLossy Utf8.decodeLossy) := by
  rw [pairs, rawPairs, List.map_map]
  rfl

/-- Texts show their bytes. -/
theorem perm_rawPairs {q r : List Char} (hq : IsText q) (hr : IsText r)
    (h : (pairs q).Perm (pairs r)) : (rawPairs q).Perm (rawPairs r) := by
  have hback {q : List Char} (hq : IsText q) :
      (pairs q).map (Prod.map Utf8.encode Utf8.encode) = rawPairs q := by
    rw [pairs_eq, List.map_map]
    refine (List.map_congr_left fun p hp => ?_).trans (List.map_id _)
    exact Prod.ext (Utf8.encode_decodeLossy (hq p hp).1) (Utf8.encode_decodeLossy (hq p hp).2)
  rw [← hback hq, ← hback hr]
  exact h.map _

end Form

namespace Url

/-! ## The parts in a key -/

section Parts

variable {u v : Url} {p q : List (List Char)}

/-- Which URLs share a key. -/
theorem uniqueKey_eq_iff (hu : u.Sound) (hv : v.Sound) (ha : u.authority ≠ none)
    (hb : v.authority ≠ none) (hp : u.path = .segments p) (hq : v.path = .segments q) (k : Bool) :
    u.uniqueKey k = v.uniqueKey k ↔
      u.scheme = v.scheme ∧ u.authority = v.authority ∧
      trimmedPath u.kind p = trimmedPath v.kind q ∧
      (Form.pairs (u.query.getD [])).Perm (Form.pairs (v.query.getD [])) ∧
      keptFragment k u.fragment = keptFragment k v.fragment := by
  have hnu := normal_of_segments k hp
  have hnv := normal_of_segments k hq
  constructor
  · intro h
    have h := text_injective (sound_normal hu k) (sound_normal hv k) (by rw [hnu]; exact ha)
      (by rw [hnv]; exact hb) h
    rw [hnu, hnv] at h
    simp only [Url.mk.injEq, UrlPath.segments.injEq] at h
    obtain ⟨hscheme, hauth, -, hpath, hquery, hfragment⟩ := h
    exact ⟨hscheme, hauth, hpath, perm_of_sortedQuery hquery, hfragment⟩
  · rintro ⟨hscheme, hauth, hpath, hquery, hfragment⟩
    have hg : u.guarded = v.guarded := by
      rw [hu.not_guarded ha, hv.not_guarded hb]
    refine congrArg text ?_
    rw [hnu, hnv, hpath, sortedQuery_of_perm hquery, hfragment, hscheme, hauth, hg]

end Parts

/-! ## Paths -/

/-- Whether the path of a file begins with a drive letter and a bar. -/
def hasBar (u : Url) : Bool :=
  match u.path with
  | .segments (s :: _) => u.kind == .file && Path.isBarred s
  | _ => false

section Paths

variable {u v : Url} {p q : List (List Char)}

theorem isBarred_iff {s : List Char} :
    Path.isBarred s = true ↔ ∃ a, s = [a, '|'] ∧ a.isAlpha = true := by
  unfold Path.isBarred
  split
  · next a b =>
    simp only [Bool.and_eq_true, beq_iff_eq, List.cons.injEq, and_true]
    constructor
    · rintro ⟨ha, rfl⟩
      exact ⟨a, ⟨rfl, rfl⟩, ha⟩
    · rintro ⟨c, ⟨rfl, rfl⟩, ha⟩
      exact ⟨ha, rfl⟩
  · next h =>
    refine ⟨fun h' => (Bool.false_ne_true h').elim, ?_⟩
    rintro ⟨a, rfl, -⟩
    exact (h a '|' rfl).elim

/-- Slashes at the end do not hide a drive letter. -/
theorem hasBar_iff (hp : u.path = .segments p) : u.hasBar = true ↔
    u.kind = .file ∧ ∃ a r, a.isAlpha = true ∧ p.rdropWhile (·.isEmpty) = [a, '|'] :: r := by
  unfold hasBar
  rw [hp]
  cases p with
  | nil => simp [List.rdropWhile_nil]
  | cons s p =>
    simp only [Bool.and_eq_true, beq_iff_eq, isBarred_iff]
    refine and_congr_right fun _ => ⟨?_, ?_⟩
    · rintro ⟨a, rfl, ha⟩
      cases hr : ([a, '|'] :: p).rdropWhile (·.isEmpty) with
      | nil =>
        rw [List.rdropWhile_eq_nil_iff] at hr
        exact absurd (hr [a, '|'] (by simp)) (by simp)
      | cons t r =>
        obtain ⟨q, hq⟩ := Span.cons_of_rdropWhile hr
        exact ⟨a, r, ha, by rw [(List.cons.inj hq).1]⟩
    · rintro ⟨a, r, ha, hr⟩
      obtain ⟨q, hq⟩ := Span.cons_of_rdropWhile hr
      exact ⟨a, (List.cons.inj hq).1, ha⟩

/-- Without a bar, trimming takes away empty segments and nothing else. -/
theorem trimmedPath_of_not_bar (h : u.Sound) (hp : u.path = .segments p) (hne : p ≠ [])
    (hb : u.hasBar = false) : trimmedPath u.kind p = Path.trimmed p := by
  unfold trimmedPath
  split
  · obtain ⟨s, r, hsr, heq⟩ := segments_trimmed h hp
    have hsettle : Path.settle (u.kind == .file) [] s = s := by
      cases hk : u.kind == .file with
      | false => exact Path.settle_of_not_first (Or.inl rfl) s
      | true =>
        refine Path.settle_of_not_barred ?_ true []
        rcases Path.head_trimmed hne with hh | hh
        · obtain ⟨t, q, rfl⟩ := List.exists_cons_of_ne_nil hne
          rw [hsr] at hh
          cases hh
          simpa [hasBar, hp, hk] using hb
        · rw [hsr] at hh
          rw [(List.cons.inj hh).1]
          rfl
    rw [heq, hsettle, hsr]
  · next hc => rw [Path.trimmed_eq_self hne (last_of_not_trimmed hne hc)]

/-- A drive letter with a bar gets a colon if something is trimmed. -/
theorem trimmedPath_of_bar (h : u.Sound) (hp : u.path = .segments p) (hb : u.hasBar = true) :
    ∃ a r, p.rdropWhile (·.isEmpty) = [a, '|'] :: r ∧
      trimmedPath u.kind p = [a, if p.getLast? = some [] then ':' else '|'] :: r := by
  obtain ⟨hk, a, r, ha, hr⟩ := (hasBar_iff hp).1 hb
  refine ⟨a, r, hr, ?_⟩
  have htrimmed : Path.trimmed p = [a, '|'] :: r := by
    rw [Path.trimmed_eq, if_neg (by simp [hr]), hr]
  have hne : p ≠ [] := by
    rintro rfl
    cases hr
  have hone : p ≠ [[]] := by
    rintro rfl
    cases hr
  unfold trimmedPath
  split
  · next hc =>
    obtain ⟨s, q, hsq, heq⟩ := segments_trimmed h hp
    rw [htrimmed] at hsq
    cases hsq
    rw [heq, if_pos hc.1, hk]
    simp [Path.settle, Path.isDrive, ha]
  · next hc =>
    have hlast := (last_of_not_trimmed hne hc).resolve_left hone
    rw [if_neg hlast, ← htrimmed, Path.trimmed_eq_self hne (Or.inr hlast)]

theorem rdropWhile_trimmedPath (h : u.Sound) (hp : u.path = .segments p) (hb : u.hasBar = false) :
    (trimmedPath u.kind p).rdropWhile (·.isEmpty) = p.rdropWhile (·.isEmpty) := by
  by_cases hne : p = []
  · subst hne
    rfl
  · rw [trimmedPath_of_not_bar h hp hne hb, Path.trimmed_eq]
    split
    · next hnil =>
      rw [hnil]
      rfl
    · exact List.rdropWhile_idempotent _ _

/-- Paths are the same up to empty segments at the end if they are trimmed to one path. -/
theorem rdropWhile_eq_of_trimmedPath (hu : u.Sound) (hv : v.Sound) (hp : u.path = .segments p)
    (hq : v.path = .segments q) (hb : u.hasBar = v.hasBar)
    (h : trimmedPath u.kind p = trimmedPath v.kind q) :
    p.rdropWhile (·.isEmpty) = q.rdropWhile (·.isEmpty) := by
  cases hub : u.hasBar with
  | false =>
    rw [← rdropWhile_trimmedPath hu hp hub, h, rdropWhile_trimmedPath hv hq (hb ▸ hub)]
  | true =>
    obtain ⟨a, r, hr, ht⟩ := trimmedPath_of_bar hu hp hub
    obtain ⟨b, s, hs, ht'⟩ := trimmedPath_of_bar hv hq (hb ▸ hub)
    rw [ht, ht'] at h
    simp only [List.cons.injEq] at h
    rw [hr, hs, h.1.1, h.2]

/-- Paths that are the same up to empty segments at the end are trimmed to one path. -/
theorem trimmedPath_eq (hu : u.Sound) (hv : v.Sound) (hp : u.path = .segments p)
    (hq : v.path = .segments q) (hk : u.kind = v.kind) (hne : p ≠ []) (hne' : q ≠ [])
    (h : p.rdropWhile (·.isEmpty) = q.rdropWhile (·.isEmpty))
    (hb : u.hasBar = true → (p.getLast? = some [] ↔ q.getLast? = some [])) :
    trimmedPath u.kind p = trimmedPath v.kind q := by
  have hbar : u.hasBar = v.hasBar := by
    rw [Bool.eq_iff_iff, hasBar_iff hp, hasBar_iff hq, hk, h]
  cases hub : u.hasBar with
  | false =>
    rw [trimmedPath_of_not_bar hu hp hne hub, trimmedPath_of_not_bar hv hq hne' (hbar ▸ hub),
      Path.trimmed_eq, Path.trimmed_eq, h]
  | true =>
    obtain ⟨a, r, hr, ht⟩ := trimmedPath_of_bar hu hp hub
    obtain ⟨b, s, hs, ht'⟩ := trimmedPath_of_bar hv hq (hbar ▸ hub)
    rw [h, hs] at hr
    cases hr
    rw [ht, ht']
    simp only [hb hub]

end Paths

/-! ## Whole URLs -/

section Whole

variable {s t : List Char} {u v : Url}

theorem rdropWhile_text (h : u.Sound) {p : List (List Char)} (hp : u.path = .segments p) :
    u.path.text.rdropWhile (· == '/') = Path.text (p.rdropWhile (·.isEmpty)) := by
  rw [hp]
  exact Path.text_rdropWhile fun s hs => (h.segments p hp s hs).slash

/-- URLs that share a key have all parts in common, up to the order of the pairs and slashes at
the end of the path. -/
theorem alike_of_uniqueKey_eq (hs : parse s = .ok u) (ht : parse t = .ok v)
    (ha : u.authority ≠ none) (hb : v.authority ≠ none)
    (h : u.uniqueKey true = v.uniqueKey true) :
    u.scheme = v.scheme ∧ u.authority = v.authority ∧ u.fragment = v.fragment ∧
    (u.hasBar = v.hasBar →
      u.path.text.rdropWhile (· == '/') = v.path.text.rdropWhile (· == '/')) ∧
    (Form.pairs (u.query.getD [])).Perm (Form.pairs (v.query.getD [])) ∧
    (Form.IsText (u.query.getD []) → Form.IsText (v.query.getD []) →
      (Form.rawPairs (u.query.getD [])).Perm (Form.rawPairs (v.query.getD []))) := by
  have hu := sound_of_parse hs
  have hv := sound_of_parse ht
  obtain ⟨p, hp⟩ := hu.segments_of_authority ha
  obtain ⟨q, hq⟩ := hv.segments_of_authority hb
  obtain ⟨hscheme, hauth, hpath, hpairs, hfragment⟩ :=
    (uniqueKey_eq_iff hu hv ha hb hp hq true).1 h
  refine ⟨hscheme, hauth, hfragment, fun hbar => ?_, hpairs, fun hx hy =>
    Form.perm_rawPairs hx hy hpairs⟩
  rw [rdropWhile_text hu hp, rdropWhile_text hv hq,
    rdropWhile_eq_of_trimmedPath hu hv hp hq hbar hpath]

theorem alike_of_uniqueKey_eq_of_pages : ∃ u v : Url,
    parse "http://a/x//?b=%32&a".toList = .ok u ∧ parse "http://A:80/x?a=&&b=2".toList = .ok v ∧
    u.uniqueKey true = v.uniqueKey true ∧
    u.path.text.rdropWhile (· == '/') = v.path.text.rdropWhile (· == '/') ∧
    (Form.rawPairs (u.query.getD [])).Perm (Form.rawPairs (v.query.getD [])) := by
  have hu : parse "http://a/x//?b=%32&a".toList = .ok ⟨"http".toList,
      some ⟨[], none, .name ['a'], none⟩, false, .segments [['x'], [], []],
      some "b=%32&a".toList, none⟩ := rfl
  have hv : parse "http://A:80/x?a=&&b=2".toList = .ok ⟨"http".toList,
      some ⟨[], none, .name ['a'], none⟩, false, .segments [['x']],
      some "a=&&b=2".toList, none⟩ := rfl
  have hkey := (uniqueKey_eq_iff (sound_of_parse hu) (sound_of_parse hv) (by simp) (by simp) rfl
    rfl true).2 ⟨rfl, rfl, by decide, by decide, rfl⟩
  obtain ⟨-, -, -, hpath, -, hraw⟩ := alike_of_uniqueKey_eq hu hv (by simp) (by simp) hkey
  exact ⟨_, _, hu, hv, hkey, hpath rfl, hraw (by decide) (by decide)⟩

/-- Bytes that are no text share a key with the sign that stands for them, and a bar with a
colon. -/
theorem shared_keys :
    (∃ u v : Url, parse "http://a/?%FF".toList = .ok u ∧
      parse "http://a/?%EF%BF%BD".toList = .ok v ∧ u.authority ≠ none ∧ v.authority ≠ none ∧
      u.uniqueKey true = v.uniqueKey true ∧
      ¬ (Form.rawPairs (u.query.getD [])).Perm (Form.rawPairs (v.query.getD []))) ∧
    ∃ u v : Url, parse "file:///c|/".toList = .ok u ∧ parse "file:///c:/".toList = .ok v ∧
      u.authority ≠ none ∧ v.authority ≠ none ∧ u.uniqueKey true = v.uniqueKey true ∧
      u.path.text.rdropWhile (· == '/') ≠ v.path.text.rdropWhile (· == '/') := by
  have hu : parse "http://a/?%FF".toList = .ok ⟨"http".toList,
      some ⟨[], none, .name ['a'], none⟩, false, .segments [[]], some "%FF".toList, none⟩ := rfl
  have hv : parse "http://a/?%EF%BF%BD".toList = .ok ⟨"http".toList,
      some ⟨[], none, .name ['a'], none⟩, false, .segments [[]], some "%EF%BF%BD".toList,
      none⟩ := rfl
  have hkey := (uniqueKey_eq_iff (sound_of_parse hu) (sound_of_parse hv) (by simp) (by simp) rfl
    rfl true).2 ⟨rfl, rfl, rfl, by decide, rfl⟩
  have hfile : parse "file:///c|/".toList = .ok ⟨"file".toList,
      some ⟨[], none, .none, none⟩, false, .segments ["c|".toList, []], none, none⟩ := rfl
  have hfile' : parse "file:///c:/".toList = .ok ⟨"file".toList,
      some ⟨[], none, .none, none⟩, false, .segments ["c:".toList, []], none, none⟩ := rfl
  exact ⟨⟨_, _, hu, hv, by simp, by simp, hkey, by decide⟩,
    ⟨_, _, hfile, hfile', by simp, by simp, rfl, by decide⟩⟩

/-- URLs share a key if they have all parts in common, up to the order of the pairs and slashes at
the end of the path, but for a drive letter with a bar. -/
theorem uniqueKey_eq_of_alike (hs : parse s = .ok u) (ht : parse t = .ok v)
    (ha : u.authority ≠ none) (hscheme : u.scheme = v.scheme) (hauth : u.authority = v.authority)
    (hpath : u.path.text = v.path.text ∨ (u.path.text ≠ [] ∧ v.path.text ≠ [] ∧
      u.path.text.rdropWhile (· == '/') = v.path.text.rdropWhile (· == '/')))
    (hbar : u.hasBar = true →
      (u.path.text.getLast? = some '/' ↔ v.path.text.getLast? = some '/'))
    (hpairs : (Form.pairs (u.query.getD [])).Perm (Form.pairs (v.query.getD []))) :
    u.uniqueKey false = v.uniqueKey false ∧
      (u.fragment = v.fragment → u.uniqueKey true = v.uniqueKey true) := by
  have hu := sound_of_parse hs
  have hv := sound_of_parse ht
  have hb : v.authority ≠ none := hauth ▸ ha
  have hk : u.kind = v.kind := congrArg SchemeKind.ofScheme hscheme
  obtain ⟨p, hp⟩ := hu.segments_of_authority ha
  obtain ⟨q, hq⟩ := hv.segments_of_authority hb
  have hslash : ∀ s ∈ p, '/' ∉ s := fun s hs => (hu.segments p hp s hs).slash
  have hslash' : ∀ s ∈ q, '/' ∉ s := fun s hs => (hv.segments q hq s hs).slash
  have htrimmed : trimmedPath u.kind p = trimmedPath v.kind q := by
    rw [rdropWhile_text hu hp, rdropWhile_text hv hq, hp, hq] at hpath
    rcases hpath with hpath | ⟨hne, hne', hpath⟩
    · rw [Path.text_injective hslash hslash' hpath, hk]
    · refine trimmedPath_eq hu hv hp hq hk ?_ ?_ ?_ ?_
      · rintro rfl
        exact hne rfl
      · rintro rfl
        exact hne' rfl
      · exact Path.text_injective
          (fun s hs => hslash s ((List.rdropWhile_prefix _ p).subset hs))
          (fun s hs => hslash' s ((List.rdropWhile_prefix _ q).subset hs)) hpath
      · rw [hp, hq] at hbar
        exact fun hub => (Path.getLast_text hslash).symm.trans
          ((hbar hub).trans (Path.getLast_text hslash'))
  refine ⟨?_, fun hfragment => ?_⟩
  · exact (uniqueKey_eq_iff hu hv ha hb hp hq false).2 ⟨hscheme, hauth, htrimmed, hpairs, rfl⟩
  · exact (uniqueKey_eq_iff hu hv ha hb hp hq true).2
      ⟨hscheme, hauth, htrimmed, hpairs, hfragment⟩

theorem uniqueKey_eq_of_alike_of_pages : ∃ u v : Url,
    parse "http://a/x//?b=%32&a".toList = .ok u ∧
    parse "http://A:80/x?a=&&b=2#top".toList = .ok v ∧ u.uniqueKey false = v.uniqueKey false := by
  have hu : parse "http://a/x//?b=%32&a".toList = .ok ⟨"http".toList,
      some ⟨[], none, .name ['a'], none⟩, false, .segments [['x'], [], []],
      some "b=%32&a".toList, none⟩ := rfl
  have hv : parse "http://A:80/x?a=&&b=2#top".toList = .ok ⟨"http".toList,
      some ⟨[], none, .name ['a'], none⟩, false, .segments [['x']],
      some "a=&&b=2".toList, some "top".toList⟩ := rfl
  exact ⟨_, _, hu, hv, (uniqueKey_eq_of_alike hu hv (by simp) rfl rfl (Or.inr (by decide))
    (fun hbar => absurd hbar (by decide)) (by decide)).1⟩

/-- A slash that is trimmed takes the bar of a drive letter with it. -/
theorem split_keys : ∃ u v : Url,
    parse "file:////c|".toList = .ok u ∧ parse "file:///c|/".toList = .ok v ∧
    u.authority ≠ none ∧ u.scheme = v.scheme ∧ u.authority = v.authority ∧
    u.path.text ≠ [] ∧ v.path.text ≠ [] ∧
    u.path.text.rdropWhile (· == '/') = v.path.text.rdropWhile (· == '/') ∧
    (Form.pairs (u.query.getD [])).Perm (Form.pairs (v.query.getD [])) ∧
    u.uniqueKey false = "file:///c|".toList ∧ v.uniqueKey false = "file:///c:".toList := by
  have hu : parse "file:////c|".toList = .ok ⟨"file".toList,
      some ⟨[], none, .none, none⟩, false, .segments ["c|".toList], none, none⟩ := rfl
  have hv : parse "file:///c|/".toList = .ok ⟨"file".toList,
      some ⟨[], none, .none, none⟩, false, .segments ["c|".toList, []], none, none⟩ := rfl
  exact ⟨_, _, hu, hv, by simp, rfl, rfl, by decide, by decide, by decide, by decide, rfl, rfl⟩

end Whole

end Url

end UrlMask
