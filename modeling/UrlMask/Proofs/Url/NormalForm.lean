import UrlMask.Proofs.Url.Normal

/-!
# Keys as normal forms

A key is the text of a URL. That URL is read back from it, and has the key itself, just if it is
faithful: a guard, a blank, a drive letter or a name that is lost when the key is read shows in
the key of what is read.

* `normal_normal`: the steps to a key, taken twice.
* `faithful_of_key`: a key that is read and is the key of what is read has a faithful URL.
* `key_of_key_iff`: which keys are their own keys.
-/
namespace UrlMask.Url

section Steps

variable {u : Url}

theorem withTrimmedPath_normal (h : u.Sound) (k : Bool) :
    withTrimmedPath (normal k u) = normal k u := by
  refine withTrimmedPath_withTrimmedPath (sound_withSortedQuery ?_)
  split
  · exact h
  · exact sound_withoutFragment h

theorem sortedQuery_normal (k : Bool) (u : Url) :
    sortedQuery (normal k u).query = (normal k u).query := by
  obtain ⟨p, -, hp⟩ := normal_parts k u
  rw [hp]
  exact sortedQuery_sortedQuery u.query

theorem keptFragment_normal (k : Bool) (u : Url) :
    keptFragment k (normal k u).fragment = (normal k u).fragment := by
  obtain ⟨p, -, hp⟩ := normal_parts k u
  rw [hp]
  cases k <;> rfl

/-- The steps lead nowhere from where they have led, if no blank stands at the end there. -/
theorem normal_normal (h : u.Sound) (k : Bool) (hb : (normal k u).query = none →
    (normal k u).fragment = none → ∀ s, (normal k u).path = .plain s → s.getLast? ≠ some ' ') :
    normal k (normal k u) = normal k u :=
  normal_eq_self (keptFragment_normal k u) (sortedQuery_normal k u) (withTrimmedPath_normal h k) hb

end Steps

/-! ## What is read shows that the URL is faithful -/

section Reread

variable {w v : Url} {k : Bool}

/-- A single slash loses its guard. -/
theorem guard_of_key (h : w.Sound) (hq : sortedQuery w.query = w.query)
    (hf : keptFragment k w.fragment = w.fragment) (hv : parse w.text = .ok v)
    (hk : v.uniqueKey k = w.text) (hg : w.guarded = true) : w.path ≠ .segments [[]] := by
  intro hp
  have ha := (h.guarded hg).1
  rw [parse_text_of_none h ha, settled_of_segments hp, ha, hp] at hv
  cases hv
  have hpath : ({ w with guarded := false } : Url).path = .segments [[]] := hp
  have hnormal : normal k { w with guarded := false } = { w with guarded := false } := by
    rw [normal_of_segments k hpath]
    simp only [hq, hf]
    rw [show trimmedPath _ [[]] = [[]] from rfl, ← hp]
  have hk : ({ w with guarded := false } : Url).text = w.text := by
    rw [← hk]
    exact congrArg text hnormal.symm
  have hlen := congrArg List.length hk
  simp only [text, hg, List.length_append, List.length_cons, if_true, if_false, Bool.false_eq_true,
    List.length_nil] at hlen
  omega

theorem text_of_plain {u : Url} (h : u.Sound) {s : List Char} (hp : u.path = .plain s)
    (hq : u.query = none) (hf : u.fragment = none) : u.text = u.scheme ++ ':' :: s := by
  rw [text_eq, beforePath_of_plain h hp, hp]
  simp [tailText, marked, hq, hf, UrlPath.text]

/-- Blanks at the end of a plain path are lost. -/
theorem blank_of_key (h : w.Sound) (hv : parse w.text = .ok v) (hk : v.uniqueKey k = w.text)
    (hq : w.query = none) (hf : w.fragment = none) {s : List Char} (hp : w.path = .plain s) :
    s.getLast? ≠ some ' ' := by
  have ha := (h.plain s hp).1
  have hsettled : settled w = { w with path := .plain (s.rdropWhile (· == ' ')) } := by
    unfold settled
    rw [hp, hq, hf]
    rfl
  have hsound := sound_of_parse hv
  rw [parse_text_of_none h ha, hsettled] at hv
  have hparts : v.scheme = w.scheme ∧ v.query = none ∧ v.fragment = none ∧
      v.path = .plain (s.rdropWhile (· == ' ')) := by
    cases hv
    exact ⟨rfl, hq, hf, rfl⟩
  obtain ⟨hscheme, hvq, hvf, hvp⟩ := hparts
  obtain ⟨p, hb, hn⟩ := normal_parts k v
  obtain ⟨t, ht, rfl⟩ := hb _ hvp
  have htext : (normal k v).text = w.scheme ++ ':' :: t := by
    rw [text_of_plain (sound_normal hsound k) (s := t) (by rw [hn]), hn, hscheme]
    · rw [hn, hvq]
      rfl
    · rw [hn, hvf]
      cases k <;> rfl
  rw [uniqueKey, htext, text_of_plain h hp hq hf, List.append_cancel_left_eq, List.cons.injEq] at hk
  -- so nothing is lost, the blanks neither
  have hs : s.rdropWhile (· == ' ') = s :=
    (List.rdropWhile_prefix _ s).eq_of_length_le (hk.2 ▸ ht.length_le)
  intro hl
  cases Span.rdropWhile_eq_self_iff.1 hs ' ' hl

/-- Read back, a URL with an authority has one. -/
theorem authority_ne_none_of_reread (h : w.Sound) (ha : w.authority ≠ none)
    (hv : parse w.text = .ok v) : v.authority ≠ none := by
  obtain ⟨a, ha⟩ := Option.ne_none_iff_exists'.1 ha
  by_cases hk : w.kind = .file
  · rw [parse_text_of_file h hk ha, ofFile_front h hk ha] at hv
    obtain ⟨host, -, hv⟩ := bind_ok.1 hv
    split at hv <;> cases hv <;> simp [fileOn, finish]
  · rw [parse_text_of_host h hk ha] at hv
    obtain ⟨b, -, hv⟩ := bind_ok.1 hv
    cases hv
    simp [finish]

/-- What is read has the authority of its key. -/
theorem authority_of_key (h : w.Sound) (ha : w.authority ≠ none) (hv : parse w.text = .ok v)
    (hk : v.uniqueKey k = w.text) : v.authority = w.authority := by
  have hne := authority_ne_none_of_reread h ha hv
  have hsound := sound_normal (sound_of_parse hv) k
  obtain ⟨p, -, hn⟩ := normal_parts k v
  have hauth : (normal k v).authority = v.authority := by rw [hn]
  rw [← hauth, text_injective hsound h (by rw [hauth]; exact hne) ha hk]

/-- What a file's host is read as, if it is not lost to a drive letter. -/
theorem host_of_key (h : w.Sound) (hk : w.kind = .file) {a : Authority}
    (ha : w.authority = some a) (hn : a.host ≠ Host.none) (hv : parse w.text = .ok v)
    (hva : v.authority = w.authority) : fileHost a.host.text = .ok a.host ∧
      ∀ s r, w.path = .segments (s :: r) → Path.isDrive s = false := by
  rw [parse_text_of_file h hk ha, ofFile_front h hk ha] at hv
  obtain ⟨host, hhost, hv⟩ := bind_ok.1 hv
  have hlost {s : List Char} (hs : fileOn w.scheme host s = v) :
      (if Path.startsWithDrive (Path.pieces true (s.takeWhile fun c => !endsPath c)) then Host.none
        else host) = a.host := by
    have : some _ = v.authority := congrArg Url.authority hs
    rw [hva, ha] at this
    exact congrArg Authority.host (Option.some.inj this)
  split at hv
  · next hnone =>
    cases hv
    have := hlost rfl
    rw [hnone, ite_self] at this
    exact absurd this.symm hn
  · next hnone =>
    cases hv
    have hl := hlost rfl
    have hsp : w.kind.isSpecial = true := by rw [hk]; rfl
    obtain ⟨s, r, hp⟩ := h.exists_cons_of_file hk
    rw [(pieces_path h hsp hp).1, Path.startsWithDrive_eq (h.segments _ hp)] at hl
    split at hl
    · exact absurd hl.symm hn
    · next hd =>
      refine ⟨hl ▸ hhost, fun s' r' hp' => ?_⟩
      rw [hp] at hp'
      cases hp'
      simpa using hd

/-- The name of a host is mapped to itself, or another one is read. -/
theorem name_of_key (h : w.Sound) {a : Authority} {d : List Char} (hsp : w.kind.isSpecial = true)
    (ha : w.authority = some a) (hd : a.host = .name d) (hm : DomainName.isMarked d = true)
    (hv : parse w.text = .ok v) (hva : v.authority = w.authority) :
    DomainName.toAscii d = some d := by
  have hsound := h.authority a ha
  have hhost := hsound.host
  rw [hsp, hd] at hhost
  have hn : a.host ≠ Host.none := by
    rw [hd]
    rintro ⟨⟩
    cases hm
  refine Host.toAscii_of_ofWeb (fun c hc => hhost.1 c hc) ?_
  by_cases hk : w.kind = .file
  · obtain ⟨hread, -⟩ := host_of_key h hk ha hn hv hva
    rw [hd] at hread hn
    unfold fileHost at hread
    split at hread
    · cases hread
      exact absurd rfl hn
    · split at hread
      · next g hg =>
        split at hread
        · cases hread
          exact absurd rfl hn
        · rw [← hread]
          exact hg
      · cases hread
  · rw [parse_text_of_host h hk ha] at hv
    obtain ⟨⟨b, rest⟩, hread, hv⟩ := bind_ok.1 hv
    have hb : b = a := by
      cases hv
      exact Option.some.inj (hva.trans ha)
    have hends := ends_of_authority h (by simp [ha])
    rw [Authority.readAuthority_front hsound hends, Authority.readHost_ok,
      Authority.takeHost_front hsound hends, if_pos hsp] at hread
    obtain ⟨-, host, hhost, -, port, -, -, rfl⟩ := hread
    rw [← hd, ← hb]
    rw [hd] at hhost
    exact hhost

/-- A key that is read, and is the key of what is read, is the text of a faithful URL. -/
theorem faithful_of_key (h : w.Sound) (hq : sortedQuery w.query = w.query)
    (hf : keptFragment k w.fragment = w.fragment) (hv : parse w.text = .ok v)
    (hk : v.uniqueKey k = w.text) : w.Faithful where
  guard hg := guard_of_key h hq hf hv hk hg
  blank hq hf s hp := blank_of_key h hv hk hq hf hp
  drive hkind a ha hn :=
    (host_of_key h hkind ha hn hv (authority_of_key h (by simp [ha]) hv hk)).2
  name hsp a d ha hd hm :=
    name_of_key h hsp ha hd hm hv (authority_of_key h (by simp [ha]) hv hk)

end Reread

/-! ## Keys of keys -/

section Keys

variable {s : List Char} {u : Url}

/-- A URL of the web is faithful, unless its name has capitals or Punycode. -/
theorem faithful_of_web {w : Url} (h : w.Sound) (hk : w.kind = .web)
    (hn : ∀ a d, w.authority = some a → a.host = .name d → DomainName.isMarked d = false) :
    w.Faithful := by
  have ha := h.authority_ne_none (by simp [hk])
  refine ⟨fun hg => absurd (h.guarded hg).1 ha, fun _ _ s hp => absurd (h.plain s hp).1 ha, ?_, ?_⟩
  · intro hfile
    rw [hk] at hfile
    cases hfile
  · intro _ a d had hd hm
    rw [hn a d had hd] at hm
    cases hm

/-- A key is read, and is the key of what is read, just if its URL is faithful. -/
theorem key_of_key_iff (h : parse s = .ok u) (k : Bool) :
    (∃ v, parse (u.uniqueKey k) = .ok v ∧ v.uniqueKey k = u.uniqueKey k) ↔
      (normal k u).Faithful := by
  have hu := sound_of_parse h
  have hw := sound_normal hu k
  constructor
  · rintro ⟨v, hv, hk⟩
    exact faithful_of_key hw (sortedQuery_normal k u) (keptFragment_normal k u) hv hk
  · intro hf
    exact ⟨normal k u, parse_text hw hf, congrArg text (normal_normal hu k hf.blank)⟩

theorem key_of_key_iff_of_page : ∃ u v : Url, parse "http://a.b//x//?b=2&a=%31#top".toList = .ok u ∧
    parse (u.uniqueKey true) = .ok v ∧ v.uniqueKey true = u.uniqueKey true := by
  have hu : parse "http://a.b//x//?b=2&a=%31#top".toList = .ok ⟨"http".toList,
      some ⟨[], none, .name "a.b".toList, none⟩, false, .segments [[], ['x'], [], []],
      some "b=2&a=%31".toList, some "top".toList⟩ := rfl
  obtain ⟨p, -, hp⟩ := normal_parts true ⟨"http".toList,
    some ⟨[], none, .name "a.b".toList, none⟩, false, .segments [[], ['x'], [], []],
    some "b=2&a=%31".toList, some "top".toList⟩
  have hf := faithful_of_web (sound_normal (sound_of_parse hu) true) (by rw [hp]; rfl) (by
    rw [hp]
    intro a d ha hd
    cases ha
    cases hd
    decide)
  obtain ⟨v, hv, hk⟩ := (key_of_key_iff hu true).2 hf
  exact ⟨_, v, hu, hv, hk⟩

/-- Blanks, guards and drive letters that are lost when a key is read. -/
theorem keys_of_other_urls :
    (∃ u v : Url, parse "foo:bar //#x".toList = .ok u ∧ u.uniqueKey false = "foo:bar ".toList ∧
      parse "foo:bar ".toList = .ok v ∧ v.uniqueKey false = "foo:bar".toList) ∧
    (∃ u v : Url, parse "foo:/.//".toList = .ok u ∧ u.uniqueKey false = "foo:/./".toList ∧
      parse "foo:/./".toList = .ok v ∧ v.uniqueKey false = "foo:/".toList) ∧
    ∃ u v : Url, parse "file://h//c:/".toList = .ok u ∧ u.uniqueKey false = "file://h/c:".toList ∧
      parse "file://h/c:".toList = .ok v ∧ v.uniqueKey false = "file:///c:".toList :=
  ⟨⟨_, _, rfl, rfl, rfl, rfl⟩, ⟨_, _, rfl, rfl, rfl, rfl⟩, ⟨_, _, rfl, rfl, rfl, rfl⟩⟩

end Keys

end UrlMask.Url
