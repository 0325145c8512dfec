import UrlMask.Proofs.Url.Sound

/-!
# The text of a URL, read again

The text of a URL is cut at the places where its parts were put together. So the text shows the
parts of a URL that has an authority, and a URL is read back from its text unless one of four things
stands in the way.

* `text_injective`: URLs with authorities have the same parts if they have the same text.
* `Faithful`: what makes a URL one that is read back.
* `parse_text`: such a URL is read back.
-/
namespace UrlMask.Url

open Percent (Stays EncodeSet)

/-! ## The text in its parts -/

/-- The query and the fragment behind their marks. -/
def tailText (u : Url) : List Char := marked '?' u.query ++ marked '#' u.fragment

/-- What stands between the colon of the scheme and the path. -/
def beforePath (u : Url) : List Char :=
  (match u.authority with
    | some a => a.text
    | none => []) ++ if u.guarded then ['/', '.'] else []

theorem text_eq (u : Url) :
    u.text = u.scheme ++ ':' :: (u.beforePath ++ (u.path.text ++ u.tailText)) := by
  obtain ⟨scheme, authority, guarded, path, query, fragment⟩ := u
  cases authority <;> simp [text, beforePath, tailText]

section Parts

variable {u : Url}

theorem splitScheme_text {s : List Char} (h : IsScheme s) (r : List Char) :
    splitScheme (s ++ ':' :: r) = some (s, r) := by
  have hs : ∀ c ∈ s, isSchemeChar c = true := fun c hc => (h.mem c hc).1
  have hr : ∀ c ∈ (':' :: r).head?, isSchemeChar c = false := by
    intro c hc
    cases hc
    rfl
  have hhead : (s ++ ':' :: r).head?.any Char.isAlpha = true := by
    have := h.head
    cases s with
    | nil => cases this
    | cons c s => exact this
  unfold splitScheme
  rw [if_pos hhead, Span.takeWhile_append_stop hs hr, Span.dropWhile_append_stop hs hr,
    (List.map_congr_left fun c hc => (h.mem c hc).2).trans (List.map_id s)]
  rfl

theorem endsPath_of_mem_tail : ∀ c ∈ u.tailText.head?, endsPath c = true := by
  intro c hc
  unfold tailText marked at hc
  split at hc
  · cases hc
    rfl
  · split at hc
    · cases hc
      rfl
    · cases hc

/-- What every character of a part is. -/
theorem of_stays {set : EncodeSet} {p : Char → Bool} {c : Char} (hc : Stays set c)
    (h : Utf8.HoldsOnAscii fun c => set c || p c) : p c = true := by
  have := Utf8.forall_ascii (p := fun c => set c || p c) h hc.1
  simpa [hc.2] using this

theorem not_endsPath_of_mem (h : u.Sound) : ∀ c ∈ u.path.text, endsPath c = false := by
  intro c hc
  cases hp : u.path with
  | plain s =>
    rw [hp] at hc
    have := (h.plain s hp).2.1 c hc
    simp only [isPlain, Bool.and_eq_true, Bool.not_eq_true'] at this
    exact this.2
  | segments segs =>
    rw [hp] at hc
    obtain ⟨s, hs, hc⟩ := List.mem_flatMap.1 hc
    rcases List.mem_cons.1 hc with rfl | hc
    · rfl
    · have := of_stays (p := fun c => !endsPath c) ((h.segments segs hp s hs).stays c hc)
        (by decide)
      simpa using this

/-- The path ends where the query or the fragment begins. -/
theorem takeWhile_path (h : u.Sound) :
    (u.path.text ++ u.tailText).takeWhile (fun c => !endsPath c) = u.path.text ∧
      (u.path.text ++ u.tailText).dropWhile (fun c => !endsPath c) = u.tailText := by
  have hp : ∀ c ∈ u.path.text, (!endsPath c) = true := fun c hc => by
    simp [not_endsPath_of_mem h c hc]
  have ht : ∀ c ∈ u.tailText.head?, (!endsPath c) = false := fun c hc => by
    simp [endsPath_of_mem_tail c hc]
  exact ⟨Span.takeWhile_append_stop hp ht, Span.dropWhile_append_stop hp ht⟩

/-- The query and the fragment are read back. -/
theorem tails_tailText (h : u.Sound) :
    tails u.kind.isSpecial u.tailText = (u.query, u.fragment) := by
  have hfragment : fragmentOf (marked '#' u.fragment) = u.fragment := by
    cases hf : u.fragment with
    | none => rfl
    | some f => exact congrArg some (Percent.encode_eq_self (h.fragment f hf))
  have hstop : ∀ c ∈ (marked '#' u.fragment).head?, (c != '#') = false := by
    intro c hc
    unfold marked at hc
    split at hc
    · cases hc
      rfl
    · cases hc
  unfold tailText
  cases hq : u.query with
  | none =>
    have hnone : (marked '#' u.fragment).head? ≠ some '?' := fun hc => by
      cases hstop '?' (Option.mem_def.2 hc)
    exact (tails_of_no_query _ hnone).trans (by rw [hfragment])
  | some q =>
    have hmark : ∀ c ∈ q, (c != '#') = true := fun c hc => by
      have hc := h.query q hq c hc
      cases hsp : u.kind.isSpecial <;> rw [hsp] at hc <;>
        exact of_stays (p := (· != '#')) hc (by decide)
    show tails u.kind.isSpecial ('?' :: (q ++ marked '#' u.fragment)) = _
    rw [tails_query, Span.takeWhile_append_stop hmark hstop,
      Span.dropWhile_append_stop hmark hstop, hfragment, Percent.encode_eq_self (h.query q hq)]

/-- What follows an authority ends it. -/
theorem ends_of_authority (h : u.Sound) (ha : u.authority ≠ none) :
    Ends u.kind.isSpecial (u.path.text ++ u.tailText) := by
  intro c hc
  have htail : ∀ c ∈ u.tailText.head?, endsAuthority u.kind.isSpecial c = true := fun c hc => by
    simp [endsAuthority, endsPath_of_mem_tail c hc]
  obtain ⟨segs, hp⟩ := h.segments_of_authority ha
  rw [hp] at hc
  cases segs with
  | nil => exact htail c hc
  | cons s r =>
    cases hc
    rfl

end Parts

/-! ## Texts of URLs with authorities -/

/-- The text shows the parts of a URL that has an authority. -/
theorem text_injective {u v : Url} (hu : u.Sound) (hv : v.Sound) (ha : u.authority ≠ none)
    (hb : v.authority ≠ none) (h : u.text = v.text) : u = v := by
  rw [text_eq, text_eq] at h
  have hscheme := splitScheme_text hu.scheme (u.beforePath ++ (u.path.text ++ u.tailText))
  rw [h, splitScheme_text hv.scheme] at hscheme
  simp only [Option.some.injEq, Prod.mk.injEq] at hscheme
  obtain ⟨hscheme, hrest⟩ := hscheme
  have hkind : v.kind = u.kind := congrArg SchemeKind.ofScheme hscheme
  obtain ⟨a, ha'⟩ := Option.ne_none_iff_exists'.1 ha
  obtain ⟨b, hb'⟩ := Option.ne_none_iff_exists'.1 hb
  have hug := hu.not_guarded ha
  have hvg := hv.not_guarded hb
  have hua : u.beforePath = a.text := by simp [beforePath, ha', hug]
  have hvb : v.beforePath = b.text := by simp [beforePath, hb', hvg]
  have hsa := hu.authority a ha'
  have hsb := hv.authority b hb'
  have hea := ends_of_authority hu ha
  have heb := ends_of_authority hv hb
  rw [hua, hvb] at hrest
  rw [hkind, hscheme] at hsb
  rw [hkind] at heb
  obtain ⟨hab, hrest⟩ := Authority.text_append_injective hsb hsa heb hea hrest
  obtain ⟨hup, hut⟩ := takeWhile_path hu
  obtain ⟨hvp, hvt⟩ := takeWhile_path hv
  rw [hrest, hup] at hvp
  rw [hrest, hut] at hvt
  have htails := tails_tailText hv
  rw [← hvt, hkind, tails_tailText hu, Prod.mk.injEq] at htails
  have hpath : u.path = v.path := by
    obtain ⟨p, hp⟩ := hu.segments_of_authority ha
    obtain ⟨q, hq⟩ := hv.segments_of_authority hb
    rw [hp, hq] at hvp ⊢
    exact congrArg UrlPath.segments (Path.text_injective
      (fun s hs => (hu.segments p hp s hs).slash) (fun s hs => (hv.segments q hq s hs).slash) hvp)
  obtain ⟨scheme, authority, guarded, path, query, fragment⟩ := u
  obtain ⟨scheme', authority', guarded', path', query', fragment'⟩ := v
  dsimp only at *
  rw [hscheme, ha', hb', hab, hug, hvg, hpath, htails.1, htails.2]

/-! ## What is cleaned away -/

/-- A character that is neither a blank nor a control character. -/
def isVisible (c : Char) : Bool := 0x20 < c.toNat

theorem not_control_of_isVisible {c : Char} (h : isVisible c = true) :
    isControlOrSpace c = false ∧ isTabOrNewline c = false := by
  have hlt : 0x20 < c.toNat := by simpa [isVisible] using h
  refine ⟨?_, ?_⟩
  · simp only [isControlOrSpace, decide_eq_false_iff_not]
    omega
  · cases ht : isTabOrNewline c with
    | false => rfl
    | true =>
      simp only [isTabOrNewline, Bool.or_eq_true, beq_iff_eq] at ht
      rcases ht with (rfl | rfl) | rfl <;> exact absurd hlt (by decide)

/-- Only what stands at the end is cleaned away. -/
theorem clean_append {t b : List Char} (ht : ∀ c ∈ t, isTabOrNewline c = false)
    (hhead : ∃ c, t.head? = some c ∧ isControlOrSpace c = false)
    (hlast : ∀ c, t.getLast? = some c → isControlOrSpace c = false)
    (hb : ∀ c ∈ b, isControlOrSpace c = true) : clean (t ++ b) = t := by
  obtain ⟨c, hc, hctrl⟩ := hhead
  obtain ⟨r, rfl⟩ : ∃ r, t = c :: r := by
    cases t with
    | nil => cases hc
    | cons d r => exact ⟨r, by rw [Option.some.inj hc]⟩
  have hfront : (c :: r ++ b).dropWhile isControlOrSpace = c :: r ++ b := by
    rw [List.cons_append, List.dropWhile_cons, if_neg (by simp [hctrl])]
  have hback : ((c :: r ++ b).reverse.dropWhile isControlOrSpace).reverse = c :: r := by
    rw [List.reverse_append, List.dropWhile_append_of_pos fun d hd => hb d (List.mem_reverse.1 hd)]
    rcases List.eq_nil_or_concat' (c :: r) with h | ⟨q, d, h⟩
    · cases h
    · have := hlast d (by rw [h]; simp)
      rw [h, List.reverse_append, List.reverse_singleton, List.singleton_append,
        List.dropWhile_cons, if_neg (by simp [this])]
      simp
  unfold clean
  dsimp only
  rw [hfront, hback, List.filter_eq_self]
  intro d hd
  simp [ht d hd]

section Visible

variable {u : Url}

theorem visible_of_mem_tail (h : u.Sound) {c : Char} (hc : c ∈ u.tailText) :
    isVisible c = true := by
  have hmarked {mark : Char} (hm : isVisible mark = true) {o : Option (List Char)}
      (ho : ∀ t, o = some t → ∀ c ∈ t, isVisible c = true) (hc : c ∈ marked mark o) :
      isVisible c = true := by
    unfold marked at hc
    split at hc
    · rcases List.mem_cons.1 hc with rfl | hc
      · exact hm
      · exact ho _ rfl c hc
    · cases hc
  rcases List.mem_append.1 hc with hc | hc
  · refine hmarked (by decide) (fun q hq d hd => ?_) hc
    have hd := h.query q hq d hd
    cases hsp : u.kind.isSpecial <;> rw [hsp] at hd <;>
      exact of_stays (p := isVisible) hd (by decide)
  · exact hmarked (by decide) (fun f hf d hd =>
      of_stays (p := isVisible) (h.fragment f hf d hd) (by decide)) hc

theorem visible_of_mem_scheme (h : u.Sound) {c : Char} (hc : c ∈ u.scheme) :
    isVisible c = true := by
  have hc := (h.scheme.mem c hc).1
  have ha := Form.ascii_of_isAlphanum (c := c)
  simp only [isSchemeChar, Bool.or_eq_true, beq_iff_eq] at hc
  rcases hc with ((hc | rfl) | rfl) | rfl
  · have := Utf8.forall_ascii (p := fun c => !c.isAlphanum || isVisible c) (by decide)
      (ha hc)
    simpa [hc] using this
  all_goals decide

theorem visible_of_mem_beforePath (h : u.Sound) {c : Char} (hc : c ∈ u.beforePath) :
    isVisible c = true := by
  unfold beforePath at hc
  rcases List.mem_append.1 hc with hc | hc
  · cases hauth : u.authority with
    | none => rw [hauth] at hc; cases hc
    | some a =>
      rw [hauth] at hc
      change c ∈ a.text at hc
      rw [Authority.text_eq] at hc
      simp only [List.mem_cons] at hc
      rcases hc with rfl | rfl | hc
      · decide
      · decide
      · have := Authority.isInside_of_mem (h.authority a hauth) hc
        simp only [isInside, Bool.and_eq_true] at this
        exact this.1.1
  · split at hc
    · simp only [List.mem_cons, List.not_mem_nil, or_false] at hc
      rcases hc with rfl | rfl <;> decide
    · cases hc

/-- Every character of the text is visible, if it does not stand in a plain path. -/
theorem visible_of_mem (h : u.Sound) {c : Char} (hc : c ∈ u.text) :
    isVisible c = true ∨ ∃ s, u.path = .plain s ∧ c ∈ s := by
  rw [text_eq] at hc
  simp only [List.mem_append (s := u.scheme), List.mem_append (s := u.beforePath),
    List.mem_append (s := u.path.text), List.mem_cons] at hc
  rcases hc with hc | rfl | hc | hc | hc
  · exact Or.inl (visible_of_mem_scheme h hc)
  · exact Or.inl (by decide)
  · exact Or.inl (visible_of_mem_beforePath h hc)
  · cases hp : u.path with
    | plain s => rw [hp] at hc; exact Or.inr ⟨s, rfl, hc⟩
    | segments segs =>
      rw [hp] at hc
      obtain ⟨s, hs, hc⟩ := List.mem_flatMap.1 hc
      rcases List.mem_cons.1 hc with rfl | hc
      · exact Or.inl (by decide)
      · exact Or.inl (of_stays (p := isVisible) ((h.segments segs hp s hs).stays c hc)
          (by decide))
  · exact Or.inl (visible_of_mem_tail h hc)

theorem head_text (h : u.Sound) : ∃ c, u.text.head? = some c ∧ isControlOrSpace c = false := by
  have hh := h.scheme.head
  rw [text_eq]
  cases hs : u.scheme with
  | nil => rw [hs] at hh; cases hh
  | cons c s =>
    refine ⟨c, rfl, ?_⟩
    have ha : c.isAlphanum = true := by
      rw [hs] at hh
      have : c.isAlpha = true := hh
      simp [Char.isAlphanum, this]
    have := Utf8.forall_ascii (p := fun c => !c.isAlphanum || !isControlOrSpace c)
      (by decide) (Form.ascii_of_isAlphanum ha)
    simpa [ha] using this

theorem not_tab_of_mem (h : u.Sound) : ∀ c ∈ u.text, isTabOrNewline c = false := by
  intro c hc
  rcases visible_of_mem h hc with hv | ⟨s, hp, hc⟩
  · exact (not_control_of_isVisible hv).2
  · have hc := (h.plain s hp).2.1 c hc
    have ha : c.toNat < 0x80 := by
      simp only [isPlain, Bool.and_eq_true, decide_eq_true_eq] at hc
      exact hc.1.1
    have := Utf8.forall_ascii (p := fun c => !isPlain c || !isTabOrNewline c) (by decide) ha
    simpa [hc] using this

theorem beforePath_of_plain (h : u.Sound) {s : List Char} (hp : u.path = .plain s) :
    u.beforePath = [] := by
  have ha := (h.plain s hp).1
  have hg : u.guarded = false := by
    cases hg : u.guarded with
    | false => rfl
    | true =>
      obtain ⟨-, r, hr⟩ := h.guarded hg
      rw [hp] at hr
      cases hr
  simp [beforePath, ha, hg]

/-- A blank at the end of the text is one at the end of a plain path. -/
theorem last_text (h : u.Sound) {c : Char} (hc : u.text.getLast? = some c)
    (hctrl : isControlOrSpace c = true) : u.query = none ∧ u.fragment = none ∧
      ∃ s, u.path = .plain s ∧ s.getLast? = some ' ' := by
  have hinvisible : ¬ isVisible c = true := by
    intro hv
    rw [(not_control_of_isVisible hv).1] at hctrl
    cases hctrl
  obtain ⟨s, hp, hs⟩ := (visible_of_mem h (List.mem_of_getLast? hc)).resolve_left hinvisible
  rw [text_eq, beforePath_of_plain h hp, hp] at hc
  have htail : u.tailText = [] := by
    cases ht : u.tailText with
    | nil => rfl
    | cons d t =>
      refine absurd (visible_of_mem_tail h (c := c) ?_) hinvisible
      rw [List.nil_append, ← List.cons_append, ← List.append_assoc,
        List.getLast?_append_of_ne_nil _ (by simp [ht])] at hc
      exact List.mem_of_getLast? hc
  have hparts : u.query = none ∧ u.fragment = none := by
    cases hq : u.query <;> cases hf : u.fragment <;> simp [tailText, marked, hq, hf] at htail
    exact ⟨rfl, rfl⟩
  refine ⟨hparts.1, hparts.2, s, hp, ?_⟩
  have hlast : s.getLast? = some c := by
    have hne : s ≠ [] := List.ne_nil_of_mem hs
    rw [← hc, htail, List.append_nil, List.nil_append, ← List.singleton_append, ← List.append_assoc]
    exact (List.getLast?_append_of_ne_nil _ hne).symm
  have hplain := (h.plain s hp).2.1 c hs
  have ha : c.toNat < 0x80 := by
    simp only [isPlain, Bool.and_eq_true, decide_eq_true_eq] at hplain
    exact hplain.1.1
  have := Utf8.forall_ascii (p := fun c => !(isPlain c && isControlOrSpace c) || c == ' ')
    (by decide) ha
  simp only [hplain, hctrl, Bool.and_self, Bool.not_true, Bool.false_or, beq_iff_eq] at this
  rw [hlast, this]

end Visible

/-! ## Reading a URL back -/

/-- What makes a URL one that is read back from its text. -/
structure Faithful (u : Url) : Prop where
  /-- No single slash is guarded. -/
  guard : u.guarded = true → u.path ≠ .segments [[]]
  /-- No blank stands at the end. -/
  blank : u.query = none → u.fragment = none → ∀ s, u.path = .plain s → s.getLast? ≠ some ' '
  /-- No drive letter follows the host of a file. -/
  drive : u.kind = .file → ∀ a, u.authority = some a → a.host ≠ Host.none →
    ∀ s r, u.path = .segments (s :: r) → Path.isDrive s = false
  /-- A domain name with capitals or Punycode is mapped to itself. -/
  name : u.kind.isSpecial = true → ∀ a d, u.authority = some a → a.host = .name d →
    DomainName.isMarked d = true → DomainName.toAscii d = some d

/-- Whether two slashes at the start of a path without authority are guarded when it is read. -/
def isGuarded (authority : Option Authority) (path : UrlPath) : Bool :=
  match authority, path with
  | none, .segments ([] :: _ :: _) => true
  | _, _ => false

section Back

variable {u : Url}

/-- The parts are put together again, with a guard where one is needed. -/
theorem finish_tail (h : u.Sound) :
    finish u.scheme u.authority u.path u.kind.isSpecial u.tailText =
      { u with guarded := isGuarded u.authority u.path } := by
  unfold finish
  rw [tails_tailText h]
  rfl

theorem finish_tail_of_authority (h : u.Sound) {a : Authority} (ha : u.authority = some a) :
    finish u.scheme (some a) u.path u.kind.isSpecial u.tailText = u := by
  have hg : isGuarded u.authority u.path = u.guarded := by
    rw [h.not_guarded (by simp [ha]), ha]
    rfl
  rw [← ha, finish_tail h, hg]

/-- Blanks at the end of a plain path are cleaned away. -/
theorem clean_text (h : u.Sound) : clean u.text = (settled u).text := by
  have hs := sound_settled h
  obtain ⟨b, hb, htext⟩ := text_settled u
  rw [htext]
  refine clean_append (not_tab_of_mem hs) (head_text hs) (fun c hc => ?_) (fun c hc => ?_)
  · cases hctrl : isControlOrSpace c with
    | false => rfl
    | true =>
      obtain ⟨hq, hf, s, hp, hl⟩ := last_text hs hc hctrl
      exact absurd hl (not_blank_settled u hq hf s hp)
  · rw [hb c hc]
    rfl

/-- The path behind a host is read back. -/
theorem segments_text {segs : List (List Char)} (h : u.Sound) (hp : u.path = .segments segs)
    (hne : segs ≠ []) : Path.segments false (Path.pieces u.kind.isSpecial
      (dropSlash u.kind.isSpecial (Path.text segs))) = segs := by
  have hsegs := h.segments segs hp
  obtain ⟨s, r, rfl⟩ := List.exists_cons_of_ne_nil hne
  show Path.segments false (Path.pieces u.kind.isSpecial (s ++ Path.text r)) = s :: r
  rw [Path.pieces_text hsegs, Path.segments_eq_self hsegs (by simp) (by simp) (by simp)]

/-- A URL with an authority that is not of files is read back behind the slashes. -/
theorem afterSlashes_text (h : u.Sound) {a : Authority}
    (ha : u.authority = some a) (hread : readAuthority u.kind u.scheme
      (a.front ++ (u.path.text ++ u.tailText)) = .ok (a, u.path.text ++ u.tailText)) :
    afterSlashes u.kind u.scheme (a.front ++ (u.path.text ++ u.tailText)) = .ok u := by
  obtain ⟨hpath, htail⟩ := takeWhile_path h
  unfold afterSlashes
  rw [hread]
  show Except.ok (finish u.scheme (some a) _ u.kind.isSpecial _) = _
  obtain ⟨segs, hp⟩ := h.segments_of_authority (by simp [ha])
  have hsegs : (if (!u.kind.isSpecial && (UrlPath.segments segs).text.isEmpty) = true then []
      else Path.segments false (Path.pieces u.kind.isSpecial
        (dropSlash u.kind.isSpecial (UrlPath.segments segs).text))) = segs := by
    cases segs with
    | nil =>
      rw [(h.rooted hp).1]
      rfl
    | cons s r =>
      rw [if_neg (by simp [UrlPath.text, Path.text_cons])]
      exact segments_text h hp (by simp)
  rw [hpath, htail, hp, hsegs, ← hp, finish_tail_of_authority h ha]

theorem segments_ne_nil (h : u.Sound) (ha : u.authority = none) {segs : List (List Char)}
    (hp : u.path = .segments segs) : segs ≠ [] := by
  rintro rfl
  exact (h.rooted hp).2 ha

theorem isGuarded_of_faithful (h : u.Sound) (hf : u.Faithful) :
    u.guarded = isGuarded u.authority u.path := by
  cases hg : u.guarded with
  | true =>
    obtain ⟨ha, r, hr⟩ := h.guarded hg
    cases r with
    | nil => exact absurd hr (hf.guard hg)
    | cons s r => rw [ha, hr]; rfl
  | false =>
    unfold isGuarded
    split
    · next s r ha hp => exact absurd hp (h.unguarded hg ha s r)
    · rfl

/-- Behind its first slash a path ends where it did. -/
theorem takeWhile_segments (h : u.Sound) {s : List Char} {r : List (List Char)}
    (hp : u.path = .segments (s :: r)) :
    (s ++ Path.text r ++ u.tailText).takeWhile (fun c => !endsPath c) = s ++ Path.text r ∧
      (s ++ Path.text r ++ u.tailText).dropWhile (fun c => !endsPath c) = u.tailText := by
  obtain ⟨hpath, htail⟩ := takeWhile_path h
  rw [hp] at hpath htail
  change (Path.text (s :: r) ++ u.tailText).takeWhile _ = Path.text (s :: r) at hpath
  change (Path.text (s :: r) ++ u.tailText).dropWhile _ = _ at htail
  rw [Path.text_cons, List.cons_append] at hpath htail
  rw [List.takeWhile_cons, if_pos (by decide), List.cons.injEq] at hpath
  rw [List.dropWhile_cons, if_pos (by decide)] at htail
  exact ⟨hpath.2, htail⟩

/-! ### Other schemes without an authority -/

theorem head_tailText : u.tailText.head? ≠ some '/' := by
  intro hc
  cases endsPath_of_mem_tail '/' (Option.mem_def.2 hc)

theorem ofOther_plain (h : u.Sound) {s : List Char} (hp : u.path = .plain s) :
    ofOther u.scheme (u.path.text ++ u.tailText) =
      .ok (finish u.scheme none u.path false u.tailText) := by
  obtain ⟨-, hs, hhead⟩ := h.plain s hp
  obtain ⟨hpath, htail⟩ := takeWhile_path h
  rw [hp] at hpath htail ⊢
  change (s ++ u.tailText).takeWhile _ = s at hpath
  change (s ++ u.tailText).dropWhile _ = _ at htail
  change ofOther u.scheme (s ++ u.tailText) = _
  have hstart : (s ++ u.tailText).head? ≠ some '/' := by
    cases s with
    | nil => exact head_tailText
    | cons c s => exact hhead
  have henc : Percent.encode EncodeSet.control s = s := by
    refine Percent.encode_eq_self fun c hc => ?_
    have := hs c hc
    simp only [isPlain, Bool.and_eq_true, decide_eq_true_eq, Bool.not_eq_true'] at this
    exact ⟨this.1.1, this.1.2⟩
  unfold ofOther
  split
  · next heq => rw [heq] at hstart; exact absurd rfl hstart
  · next heq => rw [heq] at hstart; exact absurd rfl hstart
  · rw [hpath, htail, henc]

section Segments

variable {s : List Char} {r : List (List Char)}

/-- A guard is worked off like any segment that means the same level. -/
theorem ofOther_guarded (h : u.Sound) (ha : u.authority = none)
    (hp : u.path = .segments (s :: r)) :
    ofOther u.scheme ('/' :: '.' :: (u.path.text ++ u.tailText)) =
      .ok (finish u.scheme none u.path false u.tailText) := by
  obtain ⟨hpath, htail⟩ := takeWhile_path h
  have hsegs := h.segments _ hp
  rw [show u.kind.isSpecial = false by rw [h.hosted ha]; rfl] at hsegs
  rw [hp] at hpath htail ⊢
  change (Path.text (s :: r) ++ u.tailText).takeWhile _ = Path.text (s :: r) at hpath
  change (Path.text (s :: r) ++ u.tailText).dropWhile _ = _ at htail
  show Except.ok (finish u.scheme none (.segments (Path.segments false (Path.pieces false
    (('.' :: (Path.text (s :: r) ++ u.tailText)).takeWhile fun c => !endsPath c)))) false
    (('.' :: (Path.text (s :: r) ++ u.tailText)).dropWhile fun c => !endsPath c)) = _
  rw [List.takeWhile_cons, if_pos (by decide), List.dropWhile_cons, if_pos (by decide), hpath,
    htail, Path.segments_guard hsegs]

theorem ofOther_segments (h : u.Sound) (ha : u.authority = none) (hg : u.guarded = false)
    (hp : u.path = .segments (s :: r)) :
    ofOther u.scheme (u.path.text ++ u.tailText) =
      .ok (finish u.scheme none u.path false u.tailText) := by
  obtain ⟨hpath, htail⟩ := takeWhile_segments h hp
  have hsegs := h.segments _ hp
  rw [show u.kind.isSpecial = false by rw [h.hosted ha]; rfl] at hsegs
  have hnext : (s ++ Path.text r ++ u.tailText).head? ≠ some '/' := by
    cases s with
    | nil =>
      cases r with
      | nil => exact head_tailText
      | cons t r => exact absurd hp (h.unguarded hg ha t r)
    | cons c s =>
      intro hc
      have := (hsegs (c :: s) (by simp)).slash
      simp only [List.cons_append, List.head?_cons, Option.some.injEq] at hc
      simp [hc] at this
  rw [hp]
  change ofOther u.scheme ('/' :: (s ++ Path.text r ++ u.tailText)) = _
  unfold ofOther
  split
  · next heq =>
    rw [(List.cons.inj heq).2] at hnext
    exact absurd rfl hnext
  · next heq =>
    rw [← (List.cons.inj heq).2, hpath, htail, Path.pieces_text hsegs,
      Path.segments_eq_self hsegs (by simp) (by simp) (by simp)]
  · next _ hslash => exact absurd rfl (hslash _)

end Segments

/-- A URL of another scheme without an authority is read back, with a guard where one is
needed. -/
theorem ofOther_text (h : u.Sound) (ha : u.authority = none) :
    ofOther u.scheme (u.beforePath ++ (u.path.text ++ u.tailText)) =
      .ok { u with guarded := isGuarded u.authority u.path } := by
  have hfinish := finish_tail h
  rw [show u.kind.isSpecial = false by rw [h.hosted ha]; rfl, ha] at hfinish
  rw [ha, ← hfinish]
  obtain ⟨s, hp⟩ | ⟨segs, hp⟩ : (∃ s, u.path = .plain s) ∨ ∃ segs, u.path = .segments segs := by
    cases u.path <;> simp
  · rw [beforePath_of_plain h hp]
    exact ofOther_plain h hp
  · obtain ⟨s, r, rfl⟩ := List.exists_cons_of_ne_nil (segments_ne_nil h ha hp)
    cases hg : u.guarded with
    | true =>
      rw [show u.beforePath = ['/', '.'] by simp [beforePath, ha, hg]]
      exact ofOther_guarded h ha hp
    | false =>
      rw [show u.beforePath = [] by simp [beforePath, ha, hg]]
      exact ofOther_segments h ha hg hp

/-! ### Files -/

theorem isDrive_text {host : Host} (h : host.Sound true) : Path.isDrive host.text = false := by
  cases hd : Path.isDrive host.text with
  | false => rfl
  | true =>
    obtain ⟨a, b, hab, ha, hb⟩ := Path.isDrive_iff.1 hd
    rcases Host.text_cases h with hf | ⟨s, hs, -⟩
    · have := hf b (by rw [hab]; simp)
      rcases hb with rfl | rfl <;> cases this
    · rw [hs] at hab
      rw [← (List.cons.inj hab).1] at ha
      cases ha

/-- The host of a file is read back, if a domain name is mapped to itself. -/
theorem fileHost_text {host : Host} (h : host.Sound true) (hl : host ≠ .name "localhost".toList)
    (hd : ∀ d, host = .name d → DomainName.toAscii d = some d) : fileHost host.text = .ok host := by
  unfold fileHost
  by_cases hn : host = Host.none
  · subst hn
    rfl
  · rw [if_neg (by rw [List.isEmpty_iff, Host.text_eq_nil h]; exact hn), Host.ofWeb_text h hn hd]
    exact congrArg Except.ok (if_neg hl)

/-- The path of a file behind a host that is left out is read back. -/
theorem fileOn_none (h : u.Sound) (hk : u.kind = .file)
    (ha : u.authority = some ⟨[], none, Host.none, none⟩) :
    fileOn u.scheme Host.none (u.path.text ++ u.tailText) = u := by
  have hsp : u.kind.isSpecial = true := by rw [hk]; rfl
  obtain ⟨hpath, htail⟩ := takeWhile_path h
  have hfinish := finish_tail_of_authority h ha
  unfold fileOn
  dsimp only
  obtain ⟨segs, hp⟩ := h.segments_of_authority (by simp [ha])
  have hsegs := h.segments segs hp
  have hled := h.led hk segs hp
  rw [hsp] at hsegs
  have hpieces : Path.pieces true (UrlPath.segments segs).text = [] :: segs := by
    refine Path.pieces_text (s := []) (r := segs) fun t ht => ?_
    rcases List.mem_cons.1 ht with rfl | ht
    · exact Path.Segment.nil true
    · exact hsegs t ht
  rw [hpath, htail, ite_self, hp, hpieces, Path.segments_eq_self_of_slash hsegs hled, ← hp,
    ← hsp, hfinish]

/-- The path behind the host of a file is cut into its segments. -/
theorem pieces_path (h : u.Sound) (hsp : u.kind.isSpecial = true) {s : List Char}
    {r : List (List Char)} (hp : u.path = .segments (s :: r)) :
    Path.pieces true ((dropSlash true (u.path.text ++ u.tailText)).takeWhile
        fun c => !endsPath c) = s :: r ∧
      (dropSlash true (u.path.text ++ u.tailText)).dropWhile (fun c => !endsPath c) =
        u.tailText := by
  obtain ⟨hpath, htail⟩ := takeWhile_segments h hp
  have hsegs := h.segments _ hp
  rw [hsp] at hsegs
  rw [hp]
  show Path.pieces true ((s ++ Path.text r ++ u.tailText).takeWhile _) = _ ∧
    (s ++ Path.text r ++ u.tailText).dropWhile _ = _
  rw [hpath, htail, Path.pieces_text hsegs]
  exact ⟨rfl, rfl⟩

theorem Sound.exists_cons_of_file (h : u.Sound) (hk : u.kind = .file) :
    ∃ s r, u.path = .segments (s :: r) := by
  obtain ⟨segs, hp⟩ := h.segments_of_authority (h.authority_ne_none (by simp [hk]))
  rcases h.led hk segs hp with rfl | ⟨s, r, rfl, -⟩
  · exact ⟨_, _, hp⟩
  · exact ⟨_, _, hp⟩

/-- The path of a file behind its host is read back, unless it begins with a drive letter. -/
theorem fileOn_host (h : u.Sound) (hk : u.kind = .file) {host : Host}
    (ha : u.authority = some ⟨[], none, host, none⟩)
    (hd : ∀ s r, u.path = .segments (s :: r) → Path.isDrive s = false) :
    fileOn u.scheme host (dropSlash true (u.path.text ++ u.tailText)) = u := by
  have hsp : u.kind.isSpecial = true := by rw [hk]; rfl
  obtain ⟨s, r, hp⟩ := h.exists_cons_of_file hk
  obtain ⟨hpieces, htail⟩ := pieces_path h hsp hp
  have hsegs := h.segments _ hp
  have hdrive := hd s r hp
  have hbar : Path.isBarred s = false := by
    cases hb : Path.isBarred s with
    | false => rfl
    | true => rw [Path.isDrive_of_isBarred hb] at hdrive; cases hdrive
  unfold fileOn
  dsimp only
  rw [hpieces, htail, Path.startsWithDrive_eq hsegs, hdrive, if_neg (by simp),
    Path.segments_eq_self hsegs (by simp) (fun _ => h.led hk _ hp) (fun _ => by simpa using hbar),
    ← hp, ← hsp, finish_tail_of_authority h ha]

/-- The host is cut off the text of a URL of a file as it stands there. -/
theorem ofFile_front (h : u.Sound) (hk : u.kind = .file) {a : Authority}
    (ha : u.authority = some a) :
    ofFile u.scheme ('/' :: '/' :: (a.front ++ (u.path.text ++ u.tailText))) =
      fileHost a.host.text >>= fun host =>
        if host = Host.none then .ok (fileOn u.scheme host (u.path.text ++ u.tailText))
        else .ok (fileOn u.scheme host (dropSlash true (u.path.text ++ u.tailText))) := by
  have hsp : u.kind.isSpecial = true := by rw [hk]; rfl
  have hsound := h.authority a ha
  obtain ⟨hu, hp, hport, -⟩ := hsound.file hk
  have hhost := hsound.host
  rw [hsp] at hhost
  have hends := ends_of_authority h (by simp [ha])
  rw [hsp] at hends
  obtain ⟨hfront, hrest⟩ := Authority.takeWhile_front hsound hends
  have hft : a.front = a.host.text := by
    simp [Authority.front, Authority.loginText, Authority.login, Authority.portText, hu, hp, hport]
  unfold ofFile
  dsimp only
  rw [if_pos (by decide), hfront, hrest, hft, isDrive_text hhost, if_neg (by simp)]

/-- A URL of a file is read back. -/
theorem ofFile_text (h : u.Sound) (hf : u.Faithful) (hk : u.kind = .file) {a : Authority}
    (ha : u.authority = some a) :
    ofFile u.scheme ('/' :: '/' :: (a.front ++ (u.path.text ++ u.tailText))) = .ok u := by
  have hsp : u.kind.isSpecial = true := by rw [hk]; rfl
  have hsound := h.authority a ha
  obtain ⟨hu, hp, hport, hl⟩ := hsound.file hk
  have hhost := hsound.host
  rw [hsp] at hhost
  have hname : ∀ d, a.host = .name d → DomainName.toAscii d = some d := by
    intro d hd
    rw [hd] at hhost
    exact Host.toAscii_name hhost (hf.name hsp a d ha hd)
  rw [ofFile_front h hk ha, fileHost_text hhost hl hname]
  obtain ⟨user, password, host, port⟩ := a
  dsimp only at hu hp hport
  subst hu hp hport
  show (if host = Host.none then Except.ok (fileOn u.scheme host (u.path.text ++ u.tailText))
    else Except.ok (fileOn u.scheme host (dropSlash true (u.path.text ++ u.tailText)))) = .ok u
  by_cases hn : host = Host.none
  · rw [if_pos hn, hn, fileOn_none h hk (by rw [ha, hn])]
  · rw [if_neg hn, fileOn_host h hk ha (hf.drive hk _ ha hn)]

/-! ### Whole texts -/

theorem beforePath_of_authority (h : u.Sound) {a : Authority} (ha : u.authority = some a) :
    u.beforePath = '/' :: '/' :: a.front := by
  simp [beforePath, ha, h.not_guarded, Authority.text_eq]

theorem clean_text_of_authority (h : u.Sound) (ha : u.authority ≠ none) :
    clean u.text = u.text := by
  obtain ⟨segs, hp⟩ := h.segments_of_authority ha
  rw [clean_text h, settled_of_segments hp]

/-- What is read where there is no authority. -/
theorem parse_text_of_none (h : u.Sound) (ha : u.authority = none) : parse u.text =
    .ok { settled u with guarded := isGuarded (settled u).authority (settled u).path } := by
  have hs := sound_settled h
  have ha' : (settled u).authority = none := by
    unfold settled
    split <;> exact ha
  unfold parse
  rw [clean_text h, text_eq, splitScheme_text hs.scheme]
  dsimp only
  rw [show SchemeKind.ofScheme (settled u).scheme = .other from hs.hosted ha']
  exact ofOther_text hs ha'

theorem parse_text_of_file (h : u.Sound) (hk : u.kind = .file) {a : Authority}
    (ha : u.authority = some a) : parse u.text =
      ofFile u.scheme ('/' :: '/' :: (a.front ++ (u.path.text ++ u.tailText))) := by
  unfold parse
  rw [clean_text_of_authority h (by simp [ha]), text_eq, splitScheme_text h.scheme,
    beforePath_of_authority h ha]
  dsimp only
  rw [show SchemeKind.ofScheme u.scheme = .file from hk]
  rfl

/-- No slash stands at the start of an authority of the web. -/
theorem not_slash_of_web (h : u.Sound) (hk : u.kind = .web) {a : Authority}
    (ha : u.authority = some a) : ∀ c ∈ (a.front ++ (u.path.text ++ u.tailText)).head?,
      (c == '/' || c == '\\') = false := by
  have hsound := h.authority a ha
  have hne : a.front ≠ [] := by
    have hhost := hsound.web hk
    rw [ne_eq, ← Host.text_eq_nil hsound.host] at hhost
    simp [Authority.front, hhost]
  intro c hc
  have hmem : c ∈ a.front := by
    obtain ⟨d, r, hr⟩ := List.exists_cons_of_ne_nil hne
    rw [hr] at hc ⊢
    cases hc
    simp
  have := endsAuthority_of_isInside (Authority.isInside_of_mem hsound hmem) true
  simp only [endsAuthority, Bool.or_eq_false_iff] at this
  simp only [Bool.or_eq_false_iff]
  exact ⟨this.1.1, this.2⟩

theorem parse_text_of_host (h : u.Sound) (hk : u.kind ≠ .file) {a : Authority}
    (ha : u.authority = some a) : parse u.text =
      afterSlashes u.kind u.scheme (a.front ++ (u.path.text ++ u.tailText)) := by
  unfold parse
  rw [clean_text_of_authority h (by simp [ha]), text_eq, splitScheme_text h.scheme,
    beforePath_of_authority h ha]
  dsimp only
  cases hkind : u.kind with
  | web =>
    rw [show SchemeKind.ofScheme u.scheme = .web from hkind]
    exact congrArg (afterSlashes .web u.scheme)
      (Span.dropWhile_append_stop (s := ['/', '/']) (by simp) (not_slash_of_web h hkind ha))
  | file => exact absurd hkind hk
  | other =>
    rw [show SchemeKind.ofScheme u.scheme = .other from hkind]
    rfl

end Back

/-- A URL is read back from its text. -/
theorem parse_text {u : Url} (h : u.Sound) (hf : u.Faithful) : parse u.text = .ok u := by
  cases ha : u.authority with
  | none =>
    rw [parse_text_of_none h ha, settled_of_blank hf.blank, ← isGuarded_of_faithful h hf]
  | some a =>
    by_cases hk : u.kind = .file
    · rw [parse_text_of_file h hk ha, ofFile_text h hf hk ha]
    · rw [parse_text_of_host h hk ha]
      refine afterSlashes_text h ha (Authority.readAuthority_text hk (h.authority a ha)
        (ends_of_authority h (by simp [ha])) ?_)
      intro hsp d hd
      have hhost := (h.authority a ha).host
      rw [hsp, hd] at hhost
      exact Host.toAscii_name hhost (hf.name hsp a d ha hd)

end UrlMask.Url
