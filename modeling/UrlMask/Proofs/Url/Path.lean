import UrlMask.Proofs.Text.Span
import UrlMask.Proofs.Url.Form
import UrlMask.Url.Path

/-!
# Paths that have been read

The segments of a path that has been read mean no level, and hold neither slashes nor characters
that are encoded. The text of such segments is cut into them again, and working them off changes
nothing, but for a drive letter with a bar.

* `segment_of_mem_segments`: what has been read consists of such segments.
* `pieces_text`: the text of segments is cut into them again.
* `segments_eq_self`, `segments_eq_self_of_slash`: working them off changes nothing.
* `text_injective`: paths of one text have the same segments.
* `text_rdropWhile`: slashes at the end of the text are empty segments at the end.
-/
namespace UrlMask.Url.Path

open Percent (Stays EncodeSet)

/-! ## Segments -/

/-- A segment of a path that has been read; in special schemes a backslash is none. -/
structure Segment (special : Bool) (s : List Char) : Prop where
  stays : ∀ c ∈ s, Stays EncodeSet.path c
  slash : '/' ∉ s
  backslash : special = true → '\\' ∉ s
  isUp : isUp s = false
  isHere : isHere s = false

theorem Segment.nil (special : Bool) : Segment special [] where
  stays := by simp
  slash := by simp
  backslash := by simp
  isUp := rfl
  isHere := rfl

theorem isDrive_iff {s : List Char} :
    isDrive s = true ↔ ∃ a b, s = [a, b] ∧ a.isAlpha = true ∧ (b = ':' ∨ b = '|') := by
  unfold isDrive
  split
  · next a b => simp
  · next h =>
    refine ⟨fun h' => (Bool.false_ne_true h').elim, ?_⟩
    rintro ⟨a, b, rfl, -⟩
    exact (h a b rfl).elim

/-- A drive letter that is written with a bar. -/
def isBarred (s : List Char) : Bool :=
  match s with
  | [a, b] => a.isAlpha && b == '|'
  | _ => false

theorem isDrive_of_isBarred {s : List Char} (h : isBarred s = true) : isDrive s = true := by
  unfold isBarred at h
  split at h
  · simp only [Bool.and_eq_true, beq_iff_eq] at h
    simp [isDrive, h]
  · cases h

theorem settle_of_not_first {file : Bool} {done : List (List Char)}
    (h : file = false ∨ done ≠ []) (s : List Char) : settle file done s = s := by
  unfold settle
  refine if_neg ?_
  rcases h with rfl | h
  · simp
  · simp [h]

theorem settle_of_not_barred {s : List Char} (h : isBarred s = false) (file : Bool)
    (done : List (List Char)) : settle file done s = s := by
  unfold settle
  split
  · next hs =>
    simp only [Bool.and_eq_true] at hs
    obtain ⟨a, b, rfl, ha, rfl | rfl⟩ := isDrive_iff.1 hs.2
    · rfl
    · simp [isBarred, ha] at h
  · rfl

theorem segment_settle {special file : Bool} {s : List Char} (h : Segment special s)
    (done : List (List Char)) : Segment special (settle file done s) := by
  unfold settle
  split
  · next hs =>
    simp only [Bool.and_eq_true] at hs
    obtain ⟨a, b, rfl, -, -⟩ := isDrive_iff.1 hs.2
    refine ⟨?_, ?_, ?_, ?_, ?_⟩
    · intro c hc
      simp only [List.take_succ_cons, List.take_zero, List.singleton_append, List.mem_cons,
        List.not_mem_nil, or_false] at hc
      rcases hc with rfl | rfl
      · exact h.stays c (by simp)
      · exact ⟨by decide, by decide⟩
    · have := h.slash
      simp only [List.mem_cons, not_or] at this
      simp [this.1]
    · intro hs
      have := h.backslash hs
      simp only [List.mem_cons, not_or] at this
      simp [this.1]
    · simp [Path.isUp]
    · simp [Path.isHere]
  · exact h

/-! ## Working off segments -/

section Resolve

variable {special file : Bool}

/-- A segment that means no level is settled and kept. -/
theorem resolve_cons {s : List Char} (hu : isUp s = false) (hh : isHere s = false)
    (done ps : List (List Char)) :
    resolve file done (s :: ps) = resolve file (settle file done s :: done) ps := by
  cases ps with
  | nil => simp [resolve, hu, hh]
  | cons p ps => simp [resolve, hu, hh]

theorem mem_up {done : List (List Char)} {s : List Char} (h : s ∈ up done) : s ∈ done := by
  unfold up at h
  split at h
  · exact h
  · split at h
    · exact h
    · exact List.mem_cons_of_mem _ h

/-- What is left after working off consists of segments, if the pieces are such but for their
meaning. -/
theorem segment_of_mem_resolve {ps done : List (List Char)}
    (hps : ∀ s ∈ ps, isUp s = false → isHere s = false → Segment special s)
    (hd : ∀ s ∈ done, Segment special s) :
    ∀ s ∈ resolve file done ps, Segment special s := by
  induction ps generalizing done with
  | nil =>
    intro s hs
    exact hd s (List.mem_reverse.1 hs)
  | cons p ps ih =>
    have hps' : ∀ s ∈ ps, Path.isUp s = false → Path.isHere s = false → Segment special s :=
      fun s hs => hps s (by simp [hs])
    have hup : ∀ s ∈ up done, Segment special s := fun s hs => hd s (mem_up hs)
    -- an empty segment takes the place of a last segment that means a level
    have hlast {d : List (List Char)} (h : ∀ s ∈ d, Segment special s) :
        ∀ s ∈ ([] :: d).reverse, Segment special s := by
      intro s hs
      rcases List.mem_cons.1 (List.mem_reverse.1 hs) with rfl | hs
      · exact Segment.nil special
      · exact h s hs
    cases hu : Path.isUp p with
    | true =>
      cases ps with
      | nil => rw [resolve, if_pos hu]; exact hlast hup
      | cons q qs => rw [resolve, if_pos hu]; exacts [ih hps' hup, by simp]
    | false =>
      cases hh : Path.isHere p with
      | true =>
        have hu : ¬ Path.isUp p = true := by simp [hu]
        cases ps with
        | nil => rw [resolve, if_neg hu, if_pos hh]; exact hlast hd
        | cons q qs => rw [resolve, if_neg hu, if_pos hh]; exacts [ih hps' hd, by simp]
      | false =>
        rw [resolve_cons hu hh]
        refine ih hps' ?_
        intro s hs
        rcases List.mem_cons.1 hs with rfl | hs
        · exact segment_settle (hps p (by simp) hu hh) done
        · exact hd s hs

theorem resolve_ne_nil {ps : List (List Char)} (h : ps ≠ []) (done : List (List Char)) :
    resolve file done ps ≠ [] := by
  induction ps generalizing done with
  | nil => exact absurd rfl h
  | cons p ps ih =>
    cases ps with
    | nil =>
      unfold resolve
      split
      · simp
      · split <;> simp
    | cons q qs =>
      rw [resolve]
      · split
        · exact ih (by simp) _
        · split <;> exact ih (by simp) _
      · simp

/-- Nothing happens to segments that are not the first ones. -/
theorem resolve_of_not_first {ps : List (List Char)} (hps : ∀ s ∈ ps, Segment special s)
    {done : List (List Char)} (h : file = false ∨ done ≠ []) :
    resolve file done ps = done.reverse ++ ps := by
  induction ps generalizing done with
  | nil => simp [resolve]
  | cons p ps ih =>
    have hp := hps p (by simp)
    rw [resolve_cons hp.isUp hp.isHere, settle_of_not_first h,
      ih (fun s hs => hps s (by simp [hs])) (Or.inr (by simp))]
    simp

/-- Of segments, only the first may change. -/
theorem resolve_eq {s : List Char} {ps : List (List Char)}
    (hps : ∀ t ∈ s :: ps, Segment special t) :
    resolve file [] (s :: ps) = settle file [] s :: ps := by
  have hs := hps s (by simp)
  rw [resolve_cons hs.isUp hs.isHere,
    resolve_of_not_first (fun t ht => hps t (by simp [ht])) (Or.inr (by simp))]
  rfl

end Resolve

/-- A drive letter stays one. -/
theorem startsWithDrive_eq {special : Bool} {s : List Char} {ps : List (List Char)}
    (hps : ∀ t ∈ s :: ps, Segment special t) : startsWithDrive (s :: ps) = isDrive s := by
  unfold startsWithDrive
  rw [resolve_eq hps]
  show isDrive (settle true [] s) = isDrive s
  cases hd : isDrive s with
  | true =>
    obtain ⟨a, b, rfl, ha, -⟩ := isDrive_iff.1 hd
    rw [settle, if_pos (by simpa using hd)]
    simp [isDrive, ha]
  | false => rw [settle, hd, if_neg (by simp), hd]

/-! ## Paths of files -/

/-- The segments of the path of a file: none is empty at the start, unless it is the only one. -/
def Led (segs : List (List Char)) : Prop := segs = [[]] ∨ ∃ s r, segs = s :: r ∧ s ≠ []

theorem led_dropLeading (segs : List (List Char)) : Led (dropLeading segs) := by
  unfold dropLeading
  split
  · exact Or.inl rfl
  · next h =>
    cases hd : segs.dropWhile (·.isEmpty) with
    | nil => exact absurd hd h
    | cons s r =>
      have hs := List.head?_dropWhile_not (fun s : List Char => s.isEmpty) segs
      rw [hd] at hs
      exact Or.inr ⟨s, r, rfl, by simpa using hs⟩

theorem dropLeading_eq_self {segs : List (List Char)} (h : Led segs) : dropLeading segs = segs := by
  rcases h with rfl | ⟨s, r, rfl, h⟩
  · rfl
  · simp [dropLeading, h]

theorem dropLeading_cons_nil (segs : List (List Char)) :
    dropLeading ([] :: segs) = dropLeading segs := by
  simp [dropLeading]

theorem mem_dropLeading {segs : List (List Char)} {s : List Char} (h : s ∈ dropLeading segs) :
    s = [] ∨ s ∈ segs := by
  unfold dropLeading at h
  split at h
  · exact Or.inl (List.mem_singleton.1 h)
  · exact Or.inr ((List.dropWhile_sublist _).subset h)

/-! ## Reading segments -/

section Segments

variable {special file : Bool}

theorem segments_ne_nil {ps : List (List Char)} (h : ps ≠ []) : segments file ps ≠ [] := by
  unfold segments
  dsimp only
  split
  · rcases led_dropLeading (resolve file [] ps) with h | ⟨s, r, h, -⟩ <;> simp [h]
  · exact resolve_ne_nil h []

/-- What has been worked off consists of segments. -/
theorem segment_of_mem_segments {ps : List (List Char)}
    (hps : ∀ s ∈ ps, isUp s = false → isHere s = false → Segment special s) :
    ∀ s ∈ segments file ps, Segment special s := by
  have hr : ∀ s ∈ resolve file [] ps, Segment special s :=
    segment_of_mem_resolve hps (by simp)
  intro s hs
  unfold segments at hs
  dsimp only at hs
  split at hs
  · rcases mem_dropLeading hs with rfl | hs
    · exact Segment.nil special
    · exact hr s hs
  · exact hr s hs

theorem led_segments (ps : List (List Char)) : Led (segments true ps) := led_dropLeading _

/-- Working off segments changes nothing, if the path of a file does not begin with a drive letter
and a bar. -/
theorem segments_eq_self {segs : List (List Char)} (hs : ∀ s ∈ segs, Segment special s)
    (hne : segs ≠ []) (hl : file = true → Led segs)
    (hb : file = true → segs.head?.any isBarred = false) : segments file segs = segs := by
  obtain ⟨s, r, rfl⟩ := List.exists_cons_of_ne_nil hne
  have hsettle : settle file [] s = s := by
    cases file with
    | false => exact settle_of_not_first (Or.inl rfl) s
    | true => exact settle_of_not_barred (by simpa using hb rfl) true []
  unfold segments
  rw [resolve_eq hs, hsettle]
  dsimp only
  split
  · next hf => exact dropLeading_eq_self (hl hf)
  · rfl

/-- Behind an empty segment nothing changes at all. -/
theorem segments_eq_self_of_slash {segs : List (List Char)} (hs : ∀ s ∈ segs, Segment special s)
    (hl : Led segs) : segments true ([] :: segs) = segs := by
  have hs' : ∀ s ∈ [] :: segs, Segment special s := by
    intro s h
    rcases List.mem_cons.1 h with rfl | h
    · exact Segment.nil special
    · exact hs s h
  unfold segments
  rw [resolve_eq hs']
  show dropLeading ([] :: segs) = segs
  rw [dropLeading_cons_nil, dropLeading_eq_self hl]

end Segments

/-! ## Texts and pieces -/

/-- The pieces of a text have what segments have, but for their meaning. -/
theorem segment_of_mem_pieces {special : Bool} {t s : List Char} (h : s ∈ pieces special t)
    (hu : isUp s = false) (hh : isHere s = false) : Segment special s := by
  obtain ⟨p, hp, rfl⟩ := List.mem_map.1 h
  obtain ⟨hslash, hsub⟩ := Form.mem_splitOn hp
  refine ⟨fun c hc => Percent.stays_of_mem EncodeSet.path_apart hc, ?_, ?_, hu, hh⟩
  · intro hc
    rcases Percent.mem_encode hc with ⟨hc, -⟩ | hc
    · exact hslash hc
    · cases hc
  · intro hs hc
    subst hs
    rcases Percent.mem_encode hc with ⟨hc, -⟩ | hc
    · obtain ⟨d, -, hd⟩ := List.mem_map.1 (hsub _ hc)
      split at hd
      · cases hd
      · next hne => exact hne hd
    · cases hc

theorem pieces_ne_nil (special : Bool) (t : List Char) : pieces special t ≠ [] := by
  simp [pieces, Form.splitOn_ne_nil]

/-- The text of segments, without its first slash, is cut into them again. -/
theorem pieces_text {special : Bool} {s : List Char} {r : List (List Char)}
    (hs : ∀ t ∈ s :: r, Segment special t) : pieces special (s ++ text r) = s :: r := by
  have hback : (if special then (s ++ text r).map (fun c => if c = '\\' then '/' else c)
      else s ++ text r) = s ++ text r := by
    cases special with
    | false => rfl
    | true =>
      refine (List.map_congr_left fun c hc => ?_).trans (List.map_id _)
      refine if_neg ?_
      rintro rfl
      rcases List.mem_append.1 hc with hc | hc
      · exact (hs s (by simp)).backslash rfl hc
      · obtain ⟨t, ht, hc⟩ := List.mem_flatMap.1 hc
        rcases List.mem_cons.1 hc with hc | hc
        · cases hc
        · exact (hs t (by simp [ht])).backslash rfl hc
  unfold pieces
  dsimp only
  rw [hback, text, Form.splitOn_join (hs s (by simp)).slash fun t ht => (hs t (by simp [ht])).slash]
  refine (List.map_congr_left fun t ht => ?_).trans (List.map_id _)
  exact Percent.encode_eq_self (hs t ht).stays

/-- A guard before the first slash is no part of the path. -/
theorem segments_guard {s : List Char} {r : List (List Char)}
    (hs : ∀ t ∈ s :: r, Segment false t) :
    segments false (pieces false ('.' :: text (s :: r))) = s :: r := by
  have hp : pieces false ('.' :: text (s :: r)) = ['.'] :: pieces false (s ++ text r) := by
    unfold pieces
    dsimp only
    rw [if_neg (by simp), if_neg (by simp)]
    exact congrArg _ (Form.splitOn_append (p := ['.']) (by decide) (s ++ text r))
  rw [hp, pieces_text hs]
  show segments false (s :: r) = s :: r
  exact segments_eq_self hs (by simp) (by simp) (by simp)

theorem text_cons (s : List Char) (r : List (List Char)) : text (s :: r) = '/' :: (s ++ text r) :=
  rfl

/-- Paths of one text have the same segments. -/
theorem text_injective {p q : List (List Char)} (hp : ∀ s ∈ p, '/' ∉ s) (hq : ∀ s ∈ q, '/' ∉ s)
    (h : text p = text q) : p = q := by
  cases p with
  | nil =>
    cases q with
    | nil => rfl
    | cons t q => cases h
  | cons s p =>
    cases q with
    | nil => cases h
    | cons t q =>
      rw [text_cons, text_cons, List.cons.injEq] at h
      have hs := Form.splitOn_join (hp s (by simp)) fun t ht => hp t (List.mem_cons_of_mem _ ht)
      have ht := Form.splitOn_join (hq t (by simp)) fun t ht => hq t (List.mem_cons_of_mem _ ht)
      rw [← hs, ← ht]
      exact congrArg (Form.splitOn '/') h.2

/-! ## Slashes at the end -/

/-- The text ends with the slash of an empty segment or with the last character of a segment. -/
theorem text_concat (segs : List (List Char)) {s : List Char} (h : '/' ∉ s) :
    (s = [] ∧ text (segs ++ [s]) = text segs ++ ['/']) ∨
      ∃ t c, s = t ++ [c] ∧ c ≠ '/' ∧ text (segs ++ [s]) = text segs ++ '/' :: t ++ [c] := by
  rcases List.eq_nil_or_concat' s with rfl | ⟨t, c, rfl⟩
  · exact Or.inl ⟨rfl, by simp [text]⟩
  · refine Or.inr ⟨t, c, rfl, ?_, by simp [text]⟩
    rintro rfl
    exact h (by simp)

/-- Slashes at the end of the text are empty segments at the end. -/
theorem text_rdropWhile {segs : List (List Char)} (h : ∀ s ∈ segs, '/' ∉ s) :
    (text segs).rdropWhile (· == '/') = text (segs.rdropWhile (·.isEmpty)) := by
  induction segs using List.reverseRecOn with
  | nil => rfl
  | append_singleton segs s ih =>
    have ih := ih fun t ht => h t (by simp [ht])
    rcases text_concat segs (h s (by simp)) with ⟨rfl, htext⟩ | ⟨t, c, rfl, hc, htext⟩
    · rw [htext, List.rdropWhile_concat_pos _ _ _ (by simp),
        List.rdropWhile_concat_pos _ _ _ (by simp), ih]
    · rw [htext, List.rdropWhile_concat_neg _ _ _ (by simpa using hc),
        List.rdropWhile_concat_neg _ _ _ (by simp), htext]

/-- A slash stands at the end of the text if the last segment is empty. -/
theorem getLast_text {segs : List (List Char)} (h : ∀ s ∈ segs, '/' ∉ s) :
    (text segs).getLast? = some '/' ↔ segs.getLast? = some [] := by
  rcases List.eq_nil_or_concat' segs with rfl | ⟨segs, s, rfl⟩
  · simp [text]
  · rcases text_concat segs (h s (by simp)) with ⟨rfl, htext⟩ | ⟨t, c, rfl, hc, htext⟩
    · simp [htext]
    · rw [htext, List.getLast?_concat, List.getLast?_concat]
      simp [hc]

theorem trimmed_eq (segs : List (List Char)) : trimmed segs =
    if segs.rdropWhile (·.isEmpty) = [] then [[]] else segs.rdropWhile (·.isEmpty) := by
  have hback : (segs.reverse.dropWhile (·.isEmpty)).reverse = segs.rdropWhile (·.isEmpty) := rfl
  unfold trimmed
  rw [hback]
  split
  · next h => simp [h]
  · next h => rw [if_neg h]

theorem mem_trimmed {segs : List (List Char)} {s : List Char} (h : s ∈ trimmed segs) :
    s = [] ∨ s ∈ segs := by
  rw [trimmed_eq] at h
  split at h
  · exact Or.inl (List.mem_singleton.1 h)
  · exact Or.inr ((List.rdropWhile_prefix _ _).subset h)

theorem trimmed_ne_nil (segs : List (List Char)) : trimmed segs ≠ [] := by
  rw [trimmed_eq]
  split
  · simp
  · assumption

/-- Only the one empty segment is left at the end. -/
theorem last_trimmed (segs : List (List Char)) :
    trimmed segs = [[]] ∨ (trimmed segs).getLast? ≠ some [] := by
  rw [trimmed_eq]
  split
  · exact Or.inl rfl
  · next h =>
    refine Or.inr ?_
    intro hl
    cases Span.last_of_rdropWhile hl

theorem trimmed_eq_self {segs : List (List Char)} (hne : segs ≠ [])
    (h : segs = [[]] ∨ segs.getLast? ≠ some []) : trimmed segs = segs := by
  rcases h with rfl | h
  · rfl
  · have hself : segs.rdropWhile (·.isEmpty) = segs := by
      refine Span.rdropWhile_eq_self_iff.2 fun s hs => ?_
      cases s with
      | nil => exact absurd hs h
      | cons c s => rfl
    rw [trimmed_eq, hself, if_neg hne]

theorem led_trimmed {segs : List (List Char)} (h : Led segs) : Led (trimmed segs) := by
  rw [trimmed_eq]
  split
  · exact Or.inl rfl
  · next hne =>
    rcases h with rfl | ⟨s, r, rfl, hs⟩
    · exact absurd rfl hne
    · obtain ⟨t, q, hq⟩ := List.exists_cons_of_ne_nil hne
      obtain ⟨q', hq'⟩ := Span.cons_of_rdropWhile hq
      cases hq'
      exact Or.inr ⟨s, q, hq, hs⟩

theorem head_trimmed {segs : List (List Char)} (hne : segs ≠ []) :
    (trimmed segs).head? = segs.head? ∨ trimmed segs = [[]] := by
  rw [trimmed_eq]
  split
  · exact Or.inr rfl
  · next h =>
    obtain ⟨t, q, hq⟩ := List.exists_cons_of_ne_nil h
    obtain ⟨q', rfl⟩ := Span.cons_of_rdropWhile hq
    rw [hq]
    exact Or.inl rfl

/-- An empty segment at the start stays. -/
theorem exists_trimmed_cons (r : List (List Char)) : ∃ q, trimmed ([] :: r) = [] :: q := by
  obtain ⟨t, q, hq⟩ := List.exists_cons_of_ne_nil (trimmed_ne_nil ([] :: r))
  rcases head_trimmed (List.cons_ne_nil [] r) with hh | hh
  · rw [hq] at hh
    exact ⟨q, by rw [hq, show t = [] by simpa using hh]⟩
  · exact ⟨[], hh⟩

/-- More than one segment that is left was there before. -/
theorem prefix_of_trimmed {segs r : List (List Char)} {s t : List Char}
    (h : trimmed segs = s :: t :: r) : s :: t :: r <+: segs := by
  rw [trimmed_eq] at h
  split at h
  · cases h
  · exact h ▸ List.rdropWhile_prefix _ segs

end UrlMask.Url.Path
