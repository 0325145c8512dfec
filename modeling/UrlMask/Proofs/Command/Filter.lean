import Mathlib.Data.List.ReduceOption
import UrlMask.Command.Basic
import UrlMask.Proofs.Command.Report
import UrlMask.Proofs.Text.Span
import UrlMask.Proofs.Text.Utf8

/-!
# What filtering comes to

A filter either has masks to go by or fails before it reads anything. With masks it takes one line
after the other. What a line comes to is settled by the line and the masks alone, and the first line
that is fatal ends the run, after what was written for the lines before it.

* `candidates`: the masks that are asked for, each built or not.
* `IsCut`: the lines of the input.
* `Judged`: what a line comes to.
* `Filtered`: what a run comes to.
* `filter_iff_filtered`: the filter comes to this and to nothing else.
-/
namespace UrlMask.Command

open Report

/-! ## Masks -/

/-- The masks that are asked for, with their labels: those given, or else those of the
configuration. -/
def candidates (c : Config) (given : List String) : List (String × Except Fault Mask) :=
  if given = [] then
    c.patterns.map fun p =>
      (p.label, (p.build c.sizeLimit).mapError fun f => .during (.buildPattern p.label) (.mask f))
  else given.map fun t => (t, (Mask.ofText t.toList [] c.sizeLimit).mapError .mask)

/-- A mask with its label, if it could be built. -/
def labelled (e : String × Except Fault Mask) : Except Fault (String × Mask) := e.2.map (e.1, ·)

/-- A mask is built before the others. If it is not, that decides, else the others do. -/
theorem seen_build_cons {label : String} {build : Report Mask} {built : Except Fault Mask}
    {buildRest : Report (List (String × Mask))} {rest : Except Fault (List (String × Mask))}
    (h : build.seen = ([], built)) (hrest : buildRest.seen = ([], rest)) :
    (build >>= fun m => buildRest >>= fun ms => return (label, m) :: ms).seen =
      ([], labelled (label, built) >>= fun e => rest >>= fun es => .ok (e :: es)) := by
  cases built with
  | error f => exact seen_bind_error h
  | ok m =>
    refine (seen_bind_silent h).trans ?_
    cases rest with
    | error f => exact seen_bind_error hrest
    | ok ms => exact seen_bind_silent hrest

theorem seen_buildGiven (limit : Nat) (ts : List String) : (buildGiven limit ts).seen = ([],
    (ts.map fun t => (t, (Mask.ofText t.toList [] limit).mapError Fault.mask)).mapM labelled) := by
  induction ts with
  | nil => rfl
  | cons t ts ih =>
    rw [buildGiven, List.map_cons, List.mapM_cons]
    exact seen_build_cons (seen_built _) ih

theorem seen_buildConfigured (limit : Nat) (ps : List Pattern) : (buildConfigured limit ps).seen =
    ([], (ps.map fun p => (p.label, (p.build limit).mapError fun f =>
      Fault.during (.buildPattern p.label) (.mask f))).mapM labelled) := by
  induction ps with
  | nil => rfl
  | cons p ps ih =>
    rw [buildConfigured, List.map_cons, List.mapM_cons]
    refine seen_build_cons ?_ ih
    rw [seen_during, seen_built]
    cases p.build limit <;> rfl

/-- An empty list of masks is refused. -/
theorem seen_refuse_empty {build : Report (List (String × Mask))}
    {built : Except Fault (List (String × Mask))} (h : build.seen = ([], built)) :
    (build >>= fun masks => if masks.isEmpty then Report.fail .noPatterns else return masks).seen =
      ([], built.bind fun masks => if masks.isEmpty then .error .noPatterns else .ok masks) := by
  cases built with
  | error f => exact seen_bind_error h
  | ok masks =>
    refine (seen_bind_silent h).trans ?_
    cases masks <;> rfl

/-- The masks to filter by are those that are asked for, if there are any and all are built. -/
theorem seen_filterMasks (c : Config) (given : List String) : (filterMasks c given).seen = ([],
    ((candidates c given).mapM labelled).bind fun masks =>
      if masks.isEmpty then .error .noPatterns else .ok masks) := by
  cases given with
  | nil => exact seen_refuse_empty (seen_buildConfigured c.sizeLimit c.patterns)
  | cons t ts => exact seen_refuse_empty (seen_buildGiven c.sizeLimit (t :: ts))

section Built

variable {cs : List (String × Except Fault Mask)}

theorem labelled_ok {e : String × Except Fault Mask} {m : String × Mask} :
    labelled e = .ok m ↔ e = (m.1, .ok m.2) := by
  obtain ⟨label, r⟩ := e
  obtain ⟨label', m⟩ := m
  simp [labelled, map_ok, and_comm]

theorem labelled_error {e : String × Except Fault Mask} {f : Fault} :
    labelled e = .error f ↔ e.2 = .error f := by
  obtain ⟨label, r⟩ := e
  cases r <;> simp [labelled, Except.map]

/-- All masks are built, -/
theorem mapM_labelled_ok {masks : List (String × Mask)} :
    cs.mapM labelled = .ok masks ↔ cs = masks.map fun e => (e.1, .ok e.2) := by
  simp only [Span.mapM_ok_iff, labelled_ok]
  rw [← List.forall₂_eq_eq_eq, List.forall₂_map_right_iff]

/-- or the first that is not decides. -/
theorem mapM_labelled_error {f : Fault} : cs.mapM labelled = .error f ↔
    ∃ before label after, cs = before ++ (label, .error f) :: after ∧
      ∀ e ∈ before, ∃ m, e.2 = .ok m := by
  have hok (e : String × Except Fault Mask) : (∃ m, labelled e = .ok m) ↔ ∃ m, e.2 = .ok m :=
    exists_map_ok
  simp only [Span.mapM_error_iff, hok, labelled_error]
  constructor
  · rintro ⟨before, ⟨label, r⟩, after, rfl, hbefore, rfl⟩
    exact ⟨before, label, after, rfl, hbefore⟩
  · rintro ⟨before, label, after, rfl, hbefore⟩
    exact ⟨before, _, after, rfl, hbefore, rfl⟩

end Built

/-! ## Lines -/

/-- The first mask that a URL matches, with its label. -/
def First (masks : List (String × Mask)) (url : List Char) (e : String × Mask) : Prop :=
  ∃ before after, masks = before ++ e :: after ∧ (∀ d ∈ before, d.2.accepts url = false) ∧
    e.2.accepts url = true

theorem seen_firstMatch (url : List Char) (masks : List (String × Mask)) :
    (firstMatch url masks).seen = ([], .ok (masks.find? fun e => e.2.accepts url)) := by
  induction masks with
  | nil => rfl
  | cons e es ih =>
    rw [firstMatch, seen_bind_silent (seen_ask e.2 url), List.find?_cons]
    cases e.2.accepts url
    · exact ih
    · rfl

theorem find?_eq_some_iff_first {masks : List (String × Mask)} {url : List Char}
    {e : String × Mask} : masks.find? (fun e => e.2.accepts url) = some e ↔ First masks url e := by
  rw [List.find?_eq_some_iff_append]
  unfold First
  simp only [Bool.not_eq_eq_eq_not, Bool.not_true]
  constructor
  · rintro ⟨h, before, after, he, hno⟩
    exact ⟨before, after, he, hno, h⟩
  · rintro ⟨before, after, he, hno, h⟩
    exact ⟨h, before, after, he, hno⟩

/-- What a line comes to: a fault that is fatal, or a request with the label of the first mask that
matches, or nothing. -/
inductive Judged (masks : List (String × Mask)) (line : List UInt8) :
    Except Fault (Option (String × Request)) → Prop
  | notText (h : ∀ s, Utf8.encode s ≠ line) :
    Judged masks line (.error (.during .readUrls (.unreadable .notText)))
  | blank {s : List Char} (h : Utf8.encode s = line) (hs : Text.trim s = []) :
    Judged masks line (.ok none)
  | unmatched {s : List Char} (h : Utf8.encode s = line)
    (hno : ∀ e ∈ masks, e.2.accepts (Text.trim s) = false) : Judged masks line (.ok none)
  | refused {s : List Char} {label : String} {m : Mask} {f : Request.Fault}
    (h : Utf8.encode s = line) (hs : Text.trim s ≠ [])
    (hm : First masks (Text.trim s) (label, m))
    (hf : m.requestFor (String.ofList (Text.trim s)) = .error f) :
    Judged masks line (.error (.during (.createRequest (String.ofList (Text.trim s))) (.request f)))
  | hit {s : List Char} {label : String} {m : Mask} {r : Request}
    (h : Utf8.encode s = line) (hs : Text.trim s ≠ [])
    (hm : First masks (Text.trim s) (label, m))
    (hr : m.requestFor (String.ofList (Text.trim s)) = .ok r) :
    Judged masks line (.ok (some (label, r)))

/-- What is written for a URL that matches. -/
def hitLine (e : String × Request) : List Char := (hit e.1 e.2).compact ++ ['\n']

/-- What is seen of a line that was looked at. -/
def shown : Except Fault (Option (String × Request)) → List Char × Except Fault Bool
  | .ok (some e) => (hitLine e, .ok true)
  | .ok none => ([], .ok false)
  | .error f => ([], .error f)

section Lines

variable {masks : List (String × Mask)} {line : List UInt8}
  {v : Except Fault (Option (String × Request))}

theorem seen_filterLine_notText (h : ∀ s, Utf8.encode s ≠ line) :
    (filterLine masks line).seen = ([], .error (.during .readUrls (.unreadable .notText))) := by
  have hnone : Utf8.decode? line = none := by
    cases hd : Utf8.decode? line with
    | none => rfl
    | some s => exact absurd (Utf8.decode_eq_some_iff.1 hd) (h s)
  unfold filterLine
  rw [hnone]
  rfl

theorem seen_filterLine_text {s : List Char} (h : Utf8.encode s = line) :
    (filterLine masks line).seen =
      if Text.trim s = [] then ([], .ok false)
      else match masks.find? fun e => e.2.accepts (Text.trim s) with
        | none => ([], .ok false)
        | some (label, m) =>
          match m.requestFor (String.ofList (Text.trim s)) with
          | .error f =>
            ([], .error (.during (.createRequest (String.ofList (Text.trim s))) (.request f)))
          | .ok r => (hitLine (label, r), .ok true) := by
  unfold filterLine
  rw [Utf8.decode_eq_some_iff.2 h]
  dsimp only
  cases hs : Text.trim s with
  | nil => rfl
  | cons c t =>
    rw [if_neg (List.cons_ne_nil c t)]
    refine (seen_bind_silent (seen_firstMatch (c :: t) masks)).trans ?_
    cases masks.find? fun e => e.2.accepts (c :: t) with
    | none => rfl
    | some e =>
      obtain ⟨label, m⟩ := e
      dsimp only
      have hmade : (Report.during (.createRequest (String.ofList (c :: t)))
          (Report.create m (String.ofList (c :: t)))).seen =
            ([], ((m.requestFor (String.ofList (c :: t))).mapError .request).mapError
              (.during (.createRequest (String.ofList (c :: t))))) := by
        rw [seen_during, seen_create]
      cases hr : m.requestFor (String.ofList (c :: t)) with
      | error f =>
        rw [hr] at hmade
        exact seen_bind_error hmade
      | ok r =>
        rw [hr] at hmade
        refine (seen_bind_silent hmade).trans ((seen_bind_ok (seen_writeLine _)).trans ?_)
        simp [hitLine]

/-- What a line comes to is what the filter does with it. -/
theorem seen_filterLine (h : Judged masks line v) : (filterLine masks line).seen = shown v := by
  cases h with
  | notText h => exact seen_filterLine_notText h
  | blank h hs => rw [seen_filterLine_text h, if_pos hs]; rfl
  | @unmatched s h hno =>
    have : masks.find? (fun e => e.2.accepts (Text.trim s)) = none :=
      List.find?_eq_none.2 fun e he => by simp [hno e he]
    rw [seen_filterLine_text h, this]
    split <;> rfl
  | refused h hs hm hf =>
    rw [seen_filterLine_text h, if_neg hs, find?_eq_some_iff_first.2 hm]
    simp only [hf]
    rfl
  | hit h hs hm hr =>
    rw [seen_filterLine_text h, if_neg hs, find?_eq_some_iff_first.2 hm]
    simp only [hr]
    rfl

/-- Every line comes to something. -/
theorem exists_judged (masks : List (String × Mask)) (line : List UInt8) :
    ∃ v, Judged masks line v := by
  by_cases h : ∃ s, Utf8.encode s = line
  · obtain ⟨s, h⟩ := h
    by_cases hs : Text.trim s = []
    · exact ⟨_, .blank h hs⟩
    cases hm : masks.find? fun e => e.2.accepts (Text.trim s) with
    | none =>
      exact ⟨_, .unmatched h fun e he => Bool.eq_false_iff.2 (List.find?_eq_none.1 hm e he)⟩
    | some e =>
      have hm := find?_eq_some_iff_first.1 hm
      cases hr : e.2.requestFor (String.ofList (Text.trim s)) with
      | error f => exact ⟨_, .refused h hs hm hr⟩
      | ok r => exact ⟨_, .hit h hs hm hr⟩
  · exact ⟨_, .notText fun s hs => h ⟨s, hs⟩⟩

end Lines

/-! ## The input -/

/-- The lines of an input: a newline ends a line, and something that is left after the last newline
is a line too. -/
def IsCut (bytes : List UInt8) (ls : List (List UInt8)) : Prop :=
  (∀ l ∈ ls, 10 ∉ l) ∧ (bytes = ls.flatMap (· ++ [10]) ∨
    ∃ before last, ls = before ++ [last] ∧ last ≠ [] ∧ bytes = before.flatMap (· ++ [10]) ++ last)

section Cut

variable {bytes : List UInt8} {l : List UInt8} {ls : List (List UInt8)}

theorem pieces_line (h : 10 ∉ l) (bytes : List UInt8) :
    pieces (l ++ 10 :: bytes) = l :: pieces bytes := by
  induction l with
  | nil => rfl
  | cons b l ih =>
    rw [List.cons_append, pieces, if_neg (List.ne_of_not_mem_cons h).symm,
      ih (List.not_mem_of_not_mem_cons h)]

theorem pieces_last (h : 10 ∉ l) (hne : l ≠ []) : pieces l = [l] := by
  induction l with
  | nil => exact absurd rfl hne
  | cons b l ih =>
    rw [pieces, if_neg (List.ne_of_not_mem_cons h).symm]
    cases l with
    | nil => rfl
    | cons c l => rw [ih (List.not_mem_of_not_mem_cons h) (List.cons_ne_nil c l)]

/-- There is one way to cut an input. -/
theorem IsCut.eq (h : IsCut bytes ls) : ls = pieces bytes := by
  obtain ⟨hno, h⟩ := h
  induction ls generalizing bytes with
  | nil =>
    rcases h with rfl | ⟨before, last, h, -⟩
    · rfl
    · simp at h
  | cons l ls ih =>
    obtain ⟨hl, hls⟩ := List.forall_mem_cons.1 hno
    rcases h with rfl | ⟨_ | ⟨l', before⟩, last, h, hne, rfl⟩
    · rw [List.flatMap_cons, List.append_assoc, List.singleton_append, pieces_line hl,
        ← ih hls (Or.inl rfl)]
    · cases h
      exact (pieces_last hl hne).symm
    · cases h
      rw [List.flatMap_cons, List.append_assoc, List.append_assoc, List.singleton_append,
        pieces_line hl, ← ih hls (Or.inr ⟨before, last, rfl, hne, rfl⟩)]

theorem IsCut.cons (hl : 10 ∉ l) (h : IsCut bytes ls) : IsCut (l ++ 10 :: bytes) (l :: ls) := by
  obtain ⟨hno, h⟩ := h
  refine ⟨List.forall_mem_cons.2 ⟨hl, hno⟩, ?_⟩
  rcases h with rfl | ⟨before, last, rfl, hne, rfl⟩
  · exact Or.inl (by simp)
  · exact Or.inr ⟨l :: before, last, rfl, hne, by simp⟩

/-- Every input can be cut. -/
theorem isCut_pieces (bytes : List UInt8) : IsCut bytes (pieces bytes) := by
  induction hn : bytes.length using Nat.strongRecOn generalizing bytes with
  | ind n ih =>
    by_cases h : 10 ∈ bytes
    · obtain ⟨l, rest, rfl, hl⟩ := List.eq_append_cons_of_mem h
      rw [pieces_line hl]
      exact (ih rest.length (by simp at hn; omega) rest rfl).cons hl
    · cases bytes with
      | nil => exact ⟨nofun, Or.inl rfl⟩
      | cons b bs =>
        rw [pieces_last h (List.cons_ne_nil b bs)]
        exact ⟨List.forall_mem_singleton.2 h, Or.inr ⟨[], b :: bs, rfl, List.cons_ne_nil b bs, rfl⟩⟩

end Cut

/-! ## The run -/

section Run

variable {masks : List (String × Mask)} {ls : List (List UInt8)}

/-- What is written for the lines that match. -/
def written (vs : List (Option (String × Request))) : List Char := vs.reduceOption.flatMap hitLine

/-- A line that is not fatal is in front of what the other lines come to. -/
theorem seen_filterLines_cons {l : List UInt8} {v : Option (String × Request)} {out : List Char}
    {res : Except Fault Nat} (hl : Judged masks l (.ok v))
    (h : (filterLines masks ls).seen = (out, res)) :
    (filterLines masks (l :: ls)).seen =
      (written [v] ++ out, res.map (· + [v].reduceOption.length)) := by
  have hl := seen_filterLine hl
  rw [filterLines]
  cases v with
  | none =>
    refine (seen_bind_silent hl).trans ?_
    cases res with
    | error f => exact seen_bind_error h
    | ok n => rw [seen_bind_ok h]; simp [written, Except.map]
  | some e =>
    refine (seen_bind_ok hl).trans ?_
    cases res with
    | error f => rw [seen_bind_error h]; simp [written, Except.map]
    | ok n => rw [seen_bind_ok h]; simp [written, Except.map]

theorem written_cons (v : Option (String × Request)) (vs : List (Option (String × Request))) :
    written (v :: vs) = written [v] ++ written vs := by
  cases v <;> simp [written]

theorem seen_filterLines_ok {vs : List (Option (String × Request))}
    (h : List.Forall₂ (Judged masks) ls (vs.map .ok)) :
    (filterLines masks ls).seen = (written vs, .ok vs.reduceOption.length) := by
  induction vs generalizing ls with
  | nil =>
    rw [List.map_nil, List.forall₂_nil_right_iff] at h
    rw [h]
    rfl
  | cons v vs ih =>
    rw [List.map_cons, List.forall₂_cons_right_iff] at h
    obtain ⟨l, ls, hl, hls, rfl⟩ := h
    rw [seen_filterLines_cons hl (ih hls), written_cons v vs]
    cases v <;> simp [Except.map]

theorem seen_filterLines_error {before after : List (List UInt8)} {l : List UInt8}
    {vs : List (Option (String × Request))} {f : Fault}
    (h : List.Forall₂ (Judged masks) before (vs.map .ok)) (hl : Judged masks l (.error f)) :
    (filterLines masks (before ++ l :: after)).seen = (written vs, .error f) := by
  induction vs generalizing before with
  | nil =>
    rw [List.map_nil, List.forall₂_nil_right_iff] at h
    rw [h]
    exact seen_bind_error (seen_filterLine hl)
  | cons v vs ih =>
    rw [List.map_cons, List.forall₂_cons_right_iff] at h
    obtain ⟨l', before, hl', hbefore, rfl⟩ := h
    rw [List.cons_append, seen_filterLines_cons hl' (ih hbefore), written_cons v vs]
    rfl

/-- Either no line is fatal, or there is a first that is. -/
theorem exists_verdicts (masks : List (String × Mask)) (ls : List (List UInt8)) :
    (∃ vs : List (Option (String × Request)), List.Forall₂ (Judged masks) ls (vs.map .ok)) ∨
    ∃ before l after, ls = before ++ l :: after ∧
      (∃ vs : List (Option (String × Request)), List.Forall₂ (Judged masks) before (vs.map .ok)) ∧
      ∃ f, Judged masks l (.error f) := by
  induction ls with
  | nil => exact Or.inl ⟨[], .nil⟩
  | cons l ls ih =>
    obtain ⟨v, hv⟩ := exists_judged masks l
    cases v with
    | error f => exact Or.inr ⟨[], l, ls, rfl, ⟨[], .nil⟩, f, hv⟩
    | ok v =>
      rcases ih with ⟨vs, h⟩ | ⟨before, l', after, rfl, ⟨vs, h⟩, hf⟩
      · exact Or.inl ⟨v :: vs, .cons hv h⟩
      · exact Or.inr ⟨l :: before, l', after, rfl, ⟨v :: vs, .cons hv h⟩, hf⟩

end Run

/-- What a run of the filter comes to: what was written, and the number of lines that matched or the
fault that ended it. -/
inductive Filtered (c : Config) (given : List String) (bytes : List UInt8) :
    List Char → Except Fault Nat → Prop
  | noPatterns (h : candidates c given = []) : Filtered c given bytes [] (.error .noPatterns)
  | notBuilt {before after : List (String × Except Fault Mask)} {label : String} {f : Fault}
    (h : candidates c given = before ++ (label, .error f) :: after)
    (hbefore : ∀ e ∈ before, ∃ m, e.2 = .ok m) : Filtered c given bytes [] (.error f)
  | done {masks : List (String × Mask)} {lines : List (List UInt8)}
    {vs : List (Option (String × Request))}
    (hmasks : candidates c given = masks.map fun e => (e.1, .ok e.2)) (hne : masks ≠ [])
    (hcut : IsCut bytes lines) (hlines : List.Forall₂ (Judged masks) lines (vs.map .ok)) :
    Filtered c given bytes (written vs) (.ok vs.reduceOption.length)
  | stopped {masks : List (String × Mask)} {before after : List (List UInt8)} {line : List UInt8}
    {vs : List (Option (String × Request))} {f : Fault}
    (hmasks : candidates c given = masks.map fun e => (e.1, .ok e.2)) (hne : masks ≠ [])
    (hcut : IsCut bytes (before ++ line :: after))
    (hbefore : List.Forall₂ (Judged masks) before (vs.map .ok))
    (hline : Judged masks line (.error f)) : Filtered c given bytes (written vs) (.error f)

section Filter

variable {c : Config} {given : List String} {bytes : List UInt8} {out : List Char}
  {res : Except Fault Nat}

/-- With masks, the filter goes through the lines. -/
theorem seen_filter_of_masks {masks : List (String × Mask)} {lines : List (List UInt8)}
    (hmasks : candidates c given = masks.map fun e => (e.1, .ok e.2)) (hne : masks ≠ [])
    (hcut : IsCut bytes lines) :
    (filter c given (.ok bytes)).seen = (filterLines masks lines).seen := by
  have h := seen_filterMasks c given
  rw [mapM_labelled_ok.2 hmasks] at h
  rw [hcut.eq]
  refine seen_bind_silent (h.trans ?_)
  cases masks with
  | nil => exact absurd rfl hne
  | cons e es => rfl

/-- Without masks, it fails before it writes anything. -/
theorem seen_filter_of_error {f : Fault}
    (h : ((candidates c given).mapM labelled).bind (fun masks =>
      if masks.isEmpty then .error .noPatterns else .ok masks) = .error f) :
    (filter c given (.ok bytes)).seen = ([], .error f) :=
  seen_bind_error ((seen_filterMasks c given).trans (by rw [h]))

theorem seen_filter (h : Filtered c given bytes out res) :
    (filter c given (.ok bytes)).seen = (out, res) := by
  cases h with
  | noPatterns h => exact seen_filter_of_error (by rw [h]; rfl)
  | @notBuilt before after label f h hbefore =>
    refine seen_filter_of_error ?_
    rw [mapM_labelled_error.2 ⟨before, label, after, h, hbefore⟩]
    rfl
  | done hmasks hne hcut hlines =>
    rw [seen_filter_of_masks hmasks hne hcut, seen_filterLines_ok hlines]
  | stopped hmasks hne hcut hbefore hline =>
    rw [seen_filter_of_masks hmasks hne hcut, seen_filterLines_error hbefore hline]

theorem exists_filtered (c : Config) (given : List String) (bytes : List UInt8) :
    ∃ out res, Filtered c given bytes out res := by
  cases hb : (candidates c given).mapM labelled with
  | error f =>
    obtain ⟨before, label, after, h, hbefore⟩ := mapM_labelled_error.1 hb
    exact ⟨_, _, .notBuilt h hbefore⟩
  | ok masks =>
    have hmasks := mapM_labelled_ok.1 hb
    by_cases hne : masks = []
    · subst hne
      exact ⟨_, _, .noPatterns hmasks⟩
    have hcut := isCut_pieces bytes
    rcases exists_verdicts masks (pieces bytes) with ⟨vs, h⟩ | ⟨before, l, after, he, ⟨vs, h⟩, f, hf⟩
    · exact ⟨_, _, .done hmasks hne hcut h⟩
    · rw [he] at hcut
      exact ⟨_, _, .stopped hmasks hne hcut h hf⟩

/-- The filter writes and gives what is said here, on every input. -/
theorem filter_iff_filtered : Filtered c given bytes out res ↔
    (filter c given (.ok bytes)).output = out ∧ (filter c given (.ok bytes)).result = res := by
  constructor
  · intro h
    exact Prod.mk.inj (seen_filter h)
  · rintro ⟨rfl, rfl⟩
    obtain ⟨out, res, h⟩ := exists_filtered c given bytes
    obtain ⟨ho, hr⟩ := Prod.mk.inj (seen_filter h)
    rwa [ho, hr]

end Filter

end UrlMask.Command
