import UrlMask.Proofs.Url.Reading

/-!
# The URL whose text is the key

Each step to the key changes its own part of the URL, and taking all steps again changes nothing
once the fragment is as it should be and no blank stands at the end.

* `normal_parts`, `normal_of_segments`: which parts the steps change.
* `perm_of_sortedQuery`: what the sorted query tells about the pairs.
* `normal_eq_self`: steps that have been taken already.
-/
namespace UrlMask.Url

/-! ## Queries -/

/-- The query with its pairs in order; one without pairs goes. -/
def sortedQuery (query : Option (List Char)) : Option (List Char) :=
  match Form.pairs (query.getD []) with
  | [] => none
  | ps => some (Form.write (ps.mergeSort Form.ordered))

theorem pairs_sortedQuery (query : Option (List Char)) :
    Form.pairs ((sortedQuery query).getD []) =
      (Form.pairs (query.getD [])).mergeSort Form.ordered := by
  unfold sortedQuery
  split
  · next h =>
    rw [h, List.mergeSort_nil]
    rfl
  · exact Form.pairs_write _

theorem sortedQuery_of_perm {q r : Option (List Char)}
    (h : (Form.pairs (q.getD [])).Perm (Form.pairs (r.getD []))) :
    sortedQuery q = sortedQuery r := by
  have hs := Form.sorted_eq_of_perm h
  unfold sortedQuery
  split
  · next hq =>
    rw [hq] at h
    rw [List.nil_perm.1 h]
  · next hq =>
    split
    · next hr =>
      rw [hr] at h
      exact absurd (List.perm_nil.1 h) (by simpa using hq)
    · rw [hs]

/-- The sorted query tells the pairs, but not the order they came in. -/
theorem perm_of_sortedQuery {q r : Option (List Char)} (h : sortedQuery q = sortedQuery r) :
    (Form.pairs (q.getD [])).Perm (Form.pairs (r.getD [])) := by
  have hs := pairs_sortedQuery q
  rw [h, pairs_sortedQuery r] at hs
  exact (List.mergeSort_perm _ Form.ordered).symm.trans
    (hs ▸ List.mergeSort_perm _ Form.ordered)

theorem sortedQuery_sortedQuery (query : Option (List Char)) :
    sortedQuery (sortedQuery query) = sortedQuery query := by
  refine sortedQuery_of_perm ?_
  rw [pairs_sortedQuery]
  exact List.mergeSort_perm _ _

/-! ## Which parts change -/

/-- A plain path stays one, and begins the other. -/
def UrlPath.Begins (p q : UrlPath) : Prop := ∀ s, q = .plain s → ∃ t, t <+: s ∧ p = .plain t

theorem UrlPath.Begins.refl (p : UrlPath) : p.Begins p := fun s hs => ⟨s, List.prefix_refl s, hs⟩

theorem UrlPath.Begins.trans {p q r : UrlPath} (h : p.Begins q) (h' : q.Begins r) :
    p.Begins r := by
  intro s hs
  obtain ⟨t, ht, hq⟩ := h' s hs
  obtain ⟨t', ht', hp⟩ := h t hq
  exact ⟨t', ht'.trans ht, hp⟩

theorem settled_parts (u : Url) :
    ∃ p, p.Begins u.path ∧ settled u = { u with path := p } := by
  unfold settled
  split
  · next s hs _ _ =>
    refine ⟨_, fun t ht => ?_, rfl⟩
    rw [hs] at ht
    cases ht
    exact ⟨_, List.rdropWhile_prefix (· == ' ') s, rfl⟩
  · exact ⟨u.path, .refl _, rfl⟩

theorem withSortedQuery_of_none {u : Url} (h : sortedQuery u.query = none) :
    withSortedQuery u = settled { u with query := none } := by
  unfold sortedQuery at h
  unfold withSortedQuery
  cases hp : Form.pairs (u.query.getD []) with
  | nil => rfl
  | cons p ps =>
    rw [hp] at h
    cases h

theorem withSortedQuery_of_some {u : Url} {q : List Char} (h : sortedQuery u.query = some q) :
    withSortedQuery u = { u with query := some q } := by
  unfold sortedQuery at h
  unfold withSortedQuery
  cases hp : Form.pairs (u.query.getD []) with
  | nil =>
    rw [hp] at h
    cases h
  | cons p ps =>
    rw [hp] at h
    rw [← h]

theorem withSortedQuery_parts (u : Url) : ∃ p, p.Begins u.path ∧
    withSortedQuery u = { u with query := sortedQuery u.query, path := p } := by
  cases hq : sortedQuery u.query with
  | none =>
    obtain ⟨p, hb, hp⟩ := settled_parts { u with query := none }
    exact ⟨p, hb, (withSortedQuery_of_none hq).trans hp⟩
  | some q => exact ⟨u.path, .refl _, withSortedQuery_of_some hq⟩

theorem withTrimmedPath_parts (u : Url) :
    ∃ p, p.Begins u.path ∧ withTrimmedPath u = { u with path := p } := by
  unfold withTrimmedPath
  split
  · next s hs =>
    split
    · refine ⟨_, fun t ht => ?_, rfl⟩
      rw [hs] at ht
      cases ht
      exact ⟨_, List.rdropWhile_prefix (· == '/') s, rfl⟩
    · exact ⟨u.path, .refl _, rfl⟩
  · next segs hs =>
    split
    · refine ⟨_, fun t ht => ?_, rfl⟩
      rw [hs] at ht
      cases ht
    · exact ⟨u.path, .refl _, rfl⟩

/-- The fragment of the URL whose text is the key. -/
def keptFragment (keepFragment : Bool) (fragment : Option (List Char)) : Option (List Char) :=
  if keepFragment then fragment else none

/-- Besides the path, only query and fragment change. -/
theorem normal_parts (k : Bool) (u : Url) : ∃ p, p.Begins u.path ∧ normal k u =
    { u with query := sortedQuery u.query, fragment := keptFragment k u.fragment, path := p } := by
  have hfirst : ∃ p, p.Begins u.path ∧ (if k then u else withoutFragment u) =
      { u with fragment := keptFragment k u.fragment, path := p } := by
    cases k with
    | true => exact ⟨u.path, .refl _, rfl⟩
    | false => exact settled_parts { u with fragment := none }
  obtain ⟨p, hpb, hp⟩ := hfirst
  unfold normal
  dsimp only
  rw [hp]
  obtain ⟨q, hqb, hq⟩ := withSortedQuery_parts
    { u with fragment := keptFragment k u.fragment, path := p }
  rw [hq]
  obtain ⟨r, hrb, hr⟩ := withTrimmedPath_parts
    { u with query := sortedQuery u.query, fragment := keptFragment k u.fragment, path := q }
  exact ⟨r, hrb.trans (hqb.trans hpb), hr⟩

/-- The segments of the path of the key. -/
def trimmedPath (kind : SchemeKind) (segs : List (List Char)) : List (List Char) :=
  if segs.getLast? = some [] ∧ 1 < segs.length then
    Path.segments (kind == .file) (Path.trimmed segs)
  else segs

/-- A path that is not trimmed needs no trimming. -/
theorem last_of_not_trimmed {segs : List (List Char)} (hne : segs ≠ [])
    (h : ¬ (segs.getLast? = some [] ∧ 1 < segs.length)) :
    segs = [[]] ∨ segs.getLast? ≠ some [] := by
  rcases Nat.lt_or_ge 1 segs.length with hlen | hlen
  · exact Or.inr fun hl => h ⟨hl, hlen⟩
  · obtain ⟨s, rfl⟩ := List.length_eq_one_iff.1 (Nat.le_antisymm hlen (List.length_pos_iff.2 hne))
    cases s with
    | nil => exact Or.inl rfl
    | cons c s => exact Or.inr (by simp)

theorem withTrimmedPath_of_segments {u : Url} {segs : List (List Char)}
    (hp : u.path = .segments segs) :
    withTrimmedPath u = { u with path := .segments (trimmedPath u.kind segs) } := by
  unfold withTrimmedPath trimmedPath
  rw [hp]
  dsimp only
  split
  · rfl
  · rw [← hp]

/-- A path of segments is only trimmed. -/
theorem normal_of_segments (k : Bool) {u : Url} {segs : List (List Char)}
    (hp : u.path = .segments segs) : normal k u =
      { u with
        query := sortedQuery u.query
        fragment := keptFragment k u.fragment
        path := .segments (trimmedPath u.kind segs) } := by
  have hfirst : (if k then u else withoutFragment u) =
      { u with fragment := keptFragment k u.fragment } := by
    cases k with
    | true => rfl
    | false => exact settled_of_segments (u := { u with fragment := none }) hp
  have hsecond {v : Url} (hv : v.path = .segments segs) :
      withSortedQuery v = { v with query := sortedQuery v.query } := by
    cases hq : sortedQuery v.query with
    | none =>
      exact (withSortedQuery_of_none hq).trans
        (settled_of_segments (u := { v with query := none }) hv)
    | some q => exact withSortedQuery_of_some hq
  unfold normal
  dsimp only
  rw [hfirst, hsecond (v := { u with fragment := keptFragment k u.fragment }) hp,
    withTrimmedPath_of_segments
      (u := { u with fragment := keptFragment k u.fragment, query := sortedQuery u.query }) hp]
  rfl

/-! ## Trimmed paths -/

section Trimmed

variable {u : Url} {segs : List (List Char)}

/-- Trimming leaves segments, and at most a drive letter changes. -/
theorem segments_trimmed (h : u.Sound) (hp : u.path = .segments segs) :
    ∃ s r, Path.trimmed segs = s :: r ∧ Path.segments (u.kind == .file) (Path.trimmed segs) =
      Path.settle (u.kind == .file) [] s :: r := by
  have hsegs : ∀ s ∈ Path.trimmed segs, Path.Segment u.kind.isSpecial s := by
    intro s hs
    rcases Path.mem_trimmed hs with rfl | hs
    · exact Path.Segment.nil _
    · exact h.segments segs hp s hs
  obtain ⟨s, r, hsr⟩ := List.exists_cons_of_ne_nil (Path.trimmed_ne_nil segs)
  rw [hsr] at hsegs
  refine ⟨s, r, hsr, ?_⟩
  unfold Path.segments
  rw [hsr, Path.resolve_eq hsegs]
  dsimp only
  split
  · next hf =>
    have hled := Path.led_trimmed (h.led (by simpa using hf) segs hp)
    rw [hsr] at hled
    refine Path.dropLeading_eq_self ?_
    rcases hled with hled | ⟨t, q, hq, ht⟩
    · cases hled
      exact Or.inl (by rw [Path.settle_of_not_barred rfl])
    · cases hq
      refine Or.inr ⟨_, r, rfl, ?_⟩
      unfold Path.settle
      split <;> simp [ht]
  · rfl

/-- No path but the single slash ends in a slash once it has been trimmed. -/
theorem last_trimmedPath (h : u.Sound) (hp : u.path = .segments segs) (hne : segs ≠ []) :
    trimmedPath u.kind segs = [[]] ∨ (trimmedPath u.kind segs).getLast? ≠ some [] := by
  unfold trimmedPath
  split
  · obtain ⟨s, r, hsr, heq⟩ := segments_trimmed h hp
    rw [heq]
    have hlast := Path.last_trimmed segs
    rw [hsr] at hlast
    rcases hlast with hlast | hlast
    · cases hlast
      exact Or.inl (by rw [Path.settle_of_not_barred rfl])
    · refine Or.inr ?_
      cases r with
      | nil =>
        have hs : s ≠ [] := by simpa using hlast
        unfold Path.settle
        split <;> simp [hs]
      | cons t r => simpa using hlast
  · next hc => exact last_of_not_trimmed hne hc

/-- Trimming a path again changes nothing. -/
theorem withTrimmedPath_withTrimmedPath (h : u.Sound) :
    withTrimmedPath (withTrimmedPath u) = withTrimmedPath u := by
  cases hp : u.path with
  | plain s =>
    by_cases hc : s.getLast? = some '/' ∧ 1 < s.length
    · have htrimmed : withTrimmedPath u = { u with path := .plain (s.rdropWhile (· == '/')) } := by
        unfold withTrimmedPath
        rw [hp]
        exact if_pos hc
      rw [htrimmed]
      exact if_neg fun hl => Bool.noConfusion (Span.last_of_rdropWhile (p := (· == '/')) hl.1)
    · have htrimmed : withTrimmedPath u = u := by
        unfold withTrimmedPath
        rw [hp]
        exact if_neg hc
      rw [htrimmed, htrimmed]
  | segments segs =>
    rw [withTrimmedPath_of_segments hp]
    have hp' : ({ u with path := .segments (trimmedPath u.kind segs) } : Url).path =
        .segments (trimmedPath u.kind segs) := rfl
    rw [withTrimmedPath_of_segments hp']
    have hagain : trimmedPath u.kind (trimmedPath u.kind segs) = trimmedPath u.kind segs := by
      refine if_neg ?_
      rintro ⟨hl, hlen⟩
      by_cases hne : segs = []
      · subst hne
        simp [trimmedPath] at hl
      · rcases last_trimmedPath h hp hne with he | he
        · rw [he] at hlen
          simp at hlen
        · exact he hl
    exact congrArg (fun p => ({ u with path := .segments p } : Url)) hagain

end Trimmed

/-- Steps that have been taken change nothing, if no blank stands at the end. -/
theorem normal_eq_self {k : Bool} {w : Url} (hf : keptFragment k w.fragment = w.fragment)
    (hq : sortedQuery w.query = w.query) (hp : withTrimmedPath w = w)
    (hb : w.query = none → w.fragment = none → ∀ s, w.path = .plain s → s.getLast? ≠ some ' ') :
    normal k w = w := by
  have hsettled := settled_of_blank hb
  have hfirst : (if k then w else withoutFragment w) = w := by
    cases k with
    | true => rfl
    | false =>
      have hf : w.fragment = none := hf.symm
      have : ({ w with fragment := none } : Url) = w := by rw [← hf]
      show settled { w with fragment := none } = w
      rw [this, hsettled]
  have hsecond : withSortedQuery w = w := by
    cases hw : w.query with
    | none =>
      rw [hw] at hq
      rw [withSortedQuery_of_none (by rw [hw, hq]), ← hw, hsettled]
    | some q =>
      rw [hw] at hq
      rw [withSortedQuery_of_some (by rw [hw, hq]), ← hw]
  unfold normal
  dsimp only
  rw [hfirst, hsecond, hp]

end UrlMask.Url
