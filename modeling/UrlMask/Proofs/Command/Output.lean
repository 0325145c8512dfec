import UrlMask.Proofs.Command.Filter
import UrlMask.Proofs.Config.Template
import UrlMask.Proofs.Mask.Meaning
import UrlMask.Proofs.Request.Written
import UrlMask.Proofs.Text.Lines

/-!
# The lines that filtering writes

What a filter writes falls into lines again, one for each URL that matched, and each line is read as
the object that was written: labels, URLs and data are whatever they are, as long as no number is a
floating-point number. Only the depth of the data is limited, by what a reader takes. The values in a
template have to be ordered and in range; those of a configuration that was read are.

* `Hits`: the requests that are written, with their labels.
* `Used`: the templates of the masks that match.
* `readsAs_compact`: one line.
* `exists_lines`, `readsAs_hits`: all lines.
* `output_lines`: all that is written.
* `used_template`: the templates that are used are those of the configuration.
* `output_lines_of_text`: all that is written by a configuration that was read.
-/
namespace UrlMask.Command

open Report

/-- The requests that a run without faults comes to, each with the label of its mask. -/
def Hits (c : Config) (given : List String) (bytes : List UInt8) (hits : List (String × Request)) :
    Prop :=
  ∃ masks lines, ∃ vs : List (Option (String × Request)),
    candidates c given = masks.map (fun e => (e.1, .ok e.2)) ∧ masks ≠ [] ∧ IsCut bytes lines ∧
    List.Forall₂ (Judged masks) lines (vs.map .ok) ∧ hits = vs.reduceOption

/-- The template belongs to a mask that is the first for some line. -/
def Used (c : Config) (given : List String) (bytes : List UInt8) (t : Mask.Template) : Prop :=
  ∃ masks lines, candidates c given = masks.map (fun e => (e.1, .ok e.2)) ∧ IsCut bytes lines ∧
    ∃ s e, Utf8.encode s ∈ lines ∧ Text.trim s ≠ [] ∧ First masks (Text.trim s) e ∧
      e.2.template = t

/-- The object that a line is read as. -/
def readHit (label : String) (r : Request) : Json :=
  .object [("pattern", .string label), ("request", .object (Members.ofList r.fields))]

/-- The line holds the object of a hit. Whoever reads it gets this object, or finds the data nested
too deep: around it there are two more objects. -/
def ReadsAs (line : List Char) (e : String × Request) : Prop :=
  line ≠ [] ∧
    ((Json.object e.2.userData).height + 2 < Json.Reader.depthLimit →
      Json.parse line = .ok (readHit e.1 e.2)) ∧
    (¬ (Json.object e.2.userData).height + 2 < Json.Reader.depthLimit →
      ∃ p, Json.parse line = .error ⟨.tooDeep, p⟩)

/-! ## One line -/

section Line

variable {label url : String} {m : Mask} {r : Request}

theorem height_hit : (hit label r).height = (Json.object r.userData).height + 2 := by
  have := r.height_toJson
  simp only [hit, Json.height, Json.height.members] at this ⊢
  omega

/-- The values of a request are like those of its template. -/
theorem all_fields_of_template (hr : m.requestFor url = .ok r)
    (hp : (Json.object m.template).All Json.Proper)
    (hf : (Json.object m.template).All Json.NotFloat) :
    (∀ e ∈ r.fields, e.2.All Json.Exact) ∧ ∀ e ∈ r.fields, e.2.All Json.KeysSorted := by
  have hnodup : ((m.fieldsFor url).map (·.1)).Nodup := (Members.sorted_insert hp.self).nodup
  have hfields {q : Json → Prop} (hurl : q (.string url)) (h : (Json.object m.template).All q) :
      ∀ e ∈ m.fieldsFor url, e.2.All q := by
    intro e he
    rcases Members.mem_insert he with rfl | he
    · exact hurl
    · exact Json.all_members_iff.1 h.2 e he
  constructor
  · exact Request.all_fields_exact hnodup hr
      (hfields trivial (hp.imp₂ (fun _ h h' => h.exact h') _ hf))
  · exact Request.all_fields_keysSorted hnodup hr
      (hfields trivial (hp.imp₂ (fun _ h _ => h.keysSorted) _ hf))

/-- Nothing in a hit is beyond the reader, if nothing in its request is. -/
theorem exact_hit (h : ∀ e ∈ r.fields, e.2.All Json.Exact) : (hit label r).All Json.Exact :=
  ⟨trivial, trivial, ⟨trivial, Json.all_members_iff.2 h⟩, trivial⟩

theorem inOrder_hit (h : ∀ e ∈ r.fields, e.2.All Json.KeysSorted) :
    (hit label r).inOrder = readHit label r := by
  have hfields := Json.inOrder_members r.fields (Json.all_members_iff.2 h)
  have hsorted (v w : Json) : Members.Sorted [("pattern", v), ("request", w)] :=
    List.pairwise_pair.2 (show Members.Before "pattern" "request" by decide)
  simp only [hit, Request.toJson, Json.inOrder, Json.inOrder.members, hfields,
    Members.ofList_eq_self (hsorted _ _)]
  rfl

/-- What is written for a hit is read as its object, unless the data is nested too deep. -/
theorem readsAs_compact (hr : m.requestFor url = .ok r)
    (hp : (Json.object m.template).All Json.Proper)
    (hf : (Json.object m.template).All Json.NotFloat) :
    ReadsAs (hit label r).compact (label, r) := by
  obtain ⟨hexact, hsorted⟩ := all_fields_of_template hr hp hf
  have hhit : (hit label r).All Json.Exact := exact_hit hexact
  have hparse := Json.parse_compact hhit (List.forall_mem_nil _)
  rw [List.append_nil, inOrder_hit hsorted, height_hit] at hparse
  exact ⟨List.cons_ne_nil _ _, hparse⟩

end Line

/-! ## All lines -/

section Lines

variable {c : Config} {given : List String} {bytes : List UInt8} {n : Nat}

/-- A run that gives a number has written the lines of so many hits. -/
theorem exists_hits (h : (filter c given (.ok bytes)).result = .ok n) : ∃ hits,
    Hits c given bytes hits ∧ hits.length = n ∧
      (filter c given (.ok bytes)).output = hits.flatMap hitLine := by
  obtain ⟨out, res, hf⟩ := exists_filtered c given bytes
  obtain ⟨hout, hres⟩ := Prod.mk.inj (seen_filter hf)
  rw [h] at hres
  cases hf with
  | noPatterns => cases hres
  | notBuilt => cases hres
  | @done masks lines vs hmasks hne hcut hlines =>
    cases hres
    exact ⟨_, ⟨masks, lines, vs, hmasks, hne, hcut, hlines, rfl⟩, rfl, hout⟩
  | stopped => cases hres

/-- A hit is the request of a mask that is used. -/
theorem exists_used {hits : List (String × Request)} (h : Hits c given bytes hits)
    {e : String × Request} (he : e ∈ hits) :
    ∃ m url, Used c given bytes m.template ∧ Mask.requestFor m url = .ok e.2 := by
  obtain ⟨masks, lines, vs, hmasks, -, hcut, hlines, rfl⟩ := h
  have hmem : Except.ok (some e) ∈ vs.map (Except.ok (ε := Fault)) :=
    List.mem_map_of_mem (List.reduceOption_mem_iff.1 he)
  obtain ⟨line, hline, hj⟩ := Span.exists_partner hlines hmem
  cases hj with
  | @hit s label m r h hs hm hr =>
    exact ⟨m, _, ⟨masks, lines, hmasks, hcut, s, (label, m), h ▸ hline, hs, hm, rfl⟩, hr⟩

/-- What is written falls into one line for each hit. -/
theorem splitOn_output (hits : List (String × Request)) :
    (hits.flatMap hitLine).splitOn '\n' =
      hits.map (fun e => (hit e.1 e.2).compact) ++ [[]] := by
  have hno (e : String × Request) : '\n' ∉ (hit e.1 e.2).compact := fun h =>
    absurd (Json.visible_compact _ '\n' h) (by decide)
  have hone (e : String × Request) : (hit e.1 e.2).compact.splitOn '\n' =
      [(hit e.1 e.2).compact] := List.splitOn_eq_singleton (hno e)
  have hlines := Text.splitOn_lines (fun e : String × Request => (hit e.1 e.2).compact) hits
  simp only [hone] at hlines
  rw [List.map_eq_flatMap]
  exact hlines

/-- A run that gives a number has written so many lines, each the object of a hit. -/
theorem exists_lines (h : (filter c given (.ok bytes)).result = .ok n) : ∃ hits,
    Hits c given bytes hits ∧ hits.length = n ∧
      (filter c given (.ok bytes)).output.splitOn '\n' =
        hits.map (fun e => (hit e.1 e.2).compact) ++ [[]] := by
  obtain ⟨hits, hhits, hlen, hout⟩ := exists_hits h
  exact ⟨hits, hhits, hlen, by rw [hout, splitOn_output]⟩

/-- The lines of the hits are read as the hits, by the templates that are used. -/
theorem readsAs_hits {hits : List (String × Request)} (h : Hits c given bytes hits)
    (hp : ∀ t, Used c given bytes t → (Json.object t).All Json.Proper)
    (hf : ∀ t, Used c given bytes t → (Json.object t).All Json.NotFloat) :
    List.Forall₂ ReadsAs (hits.map fun e => (hit e.1 e.2).compact) hits := by
  rw [List.forall₂_map_left_iff, List.forall₂_same]
  intro e he
  obtain ⟨m, url, hused, hr⟩ := exists_used h he
  exact readsAs_compact hr (hp _ hused) (hf _ hused)

/-- Where a run succeeds, what it wrote is one line for each hit, and each line is read as its hit,
unless the data is nested too deep for the reader. -/
theorem output_lines (h : (filter c given (.ok bytes)).result = .ok n)
    (hp : ∀ t, Used c given bytes t → (Json.object t).All Json.Proper)
    (hf : ∀ t, Used c given bytes t → (Json.object t).All Json.NotFloat) :
    ∃ hits lines, Hits c given bytes hits ∧ hits.length = n ∧
      (filter c given (.ok bytes)).output.splitOn '\n' = lines ++ [[]] ∧
      List.Forall₂ ReadsAs lines hits := by
  obtain ⟨hits, hhits, hlen, hout⟩ := exists_lines h
  exact ⟨hits, _, hhits, hlen, hout, readsAs_hits hhits hp hf⟩

/-! ## Templates -/

/-- Masks that are given have no template, and the others have that of their pattern. -/
theorem used_template {t : Mask.Template} (h : Used c given bytes t) :
    t = [] ∨ ∃ p ∈ c.patterns, p.template = some (.object t) := by
  obtain ⟨masks, lines, hmasks, -, s, e, -, -, ⟨before, after, rfl, -⟩, rfl⟩ := h
  have he : (e.1, .ok e.2) ∈ candidates c given := by
    rw [hmasks]
    simp
  unfold candidates at he
  split at he
  · obtain ⟨p, hp, he⟩ := List.mem_map.1 he
    have hbuild : p.build c.sizeLimit = .ok e.2 := by
      have he := (Prod.mk.inj he).2
      cases hb : p.build c.sizeLimit <;> rw [hb] at he <;> cases he
      rfl
    unfold Pattern.build Pattern.fields at hbuild
    cases ht : p.template with
    | none =>
      rw [ht] at hbuild
      exact Or.inl (Mask.template_of_ofText hbuild)
    | some v =>
      rw [ht] at hbuild
      cases v with
      | object m => exact Or.inr ⟨p, hp, by rw [ht, Mask.template_of_ofText hbuild]⟩
      | _ => cases hbuild
  · obtain ⟨text, -, he⟩ := List.mem_map.1 he
    have hbuilt : Mask.ofText text.toList [] c.sizeLimit = .ok e.2 := by
      have he := (Prod.mk.inj he).2
      cases hb : Mask.ofText text.toList [] c.sizeLimit <;> rw [hb] at he <;> cases he
      rfl
    exact Or.inl (Mask.template_of_ofText hbuilt)

/-- What holds of all values in the templates of a configuration holds of those that are used. -/
theorem all_used {q : Json → Prop} (hq : q (.object []))
    (h : ∀ p ∈ c.patterns, ∀ v, p.template = some v → v.All q) (t : Mask.Template)
    (ht : Used c given bytes t) : (Json.object t).All q := by
  rcases used_template ht with rfl | ⟨p, hp, ht⟩
  · exact ⟨hq, trivial⟩
  · exact h p hp _ ht

/-- By a configuration that was read, nothing is asked of the templates but that no number in them
is a floating-point number. -/
theorem output_lines_of_text {text : List Char} (hc : Config.ofText text = .ok c)
    (h : (filter c given (.ok bytes)).result = .ok n)
    (hf : ∀ t, Used c given bytes t → (Json.object t).All Json.NotFloat) :
    ∃ hits lines, Hits c given bytes hits ∧ hits.length = n ∧
      (filter c given (.ok bytes)).output.splitOn '\n' = lines ++ [[]] ∧
      List.Forall₂ ReadsAs lines hits := by
  obtain ⟨hits, hhits, hlen, hout⟩ := exists_lines h
  have hp (t : Mask.Template) (ht : Used c given bytes t) : (Json.object t).All Json.Proper :=
    all_used List.Pairwise.nil (Config.proper_of_text hc) t ht
  exact ⟨hits, _, hhits, hlen, hout, readsAs_hits hhits hp hf⟩

end Lines

/-! ## Runs -/

/-- An input of one line. -/
def shortInput : List UInt8 := Utf8.encode ['a', ':']

/-- A configuration whose labels and data have to be escaped. -/
def escapedConfig : Config where
  patterns := [{
    name := some "\"\n"
    mask := "a:"
    template := some (.object [("userData", .object [("k\\", .string "\x00é")])]) }]

/-- One line is written, and it is read back. -/
theorem output_lines_of_escaped : ∃ hits lines, Hits escapedConfig [] shortInput hits ∧
    hits.length = 1 ∧
    (filter escapedConfig [] (.ok shortInput)).output.splitOn '\n' = lines ++ [[]] ∧
    List.Forall₂ ReadsAs lines hits := by
  have hrun : (filter escapedConfig [] (.ok shortInput)).result.toOption.any (· == 1) = true := by
    decide +kernel
  obtain ⟨n, hn, h1⟩ := Mask.exists_ok_of_any hrun
  cases eq_of_beq h1
  refine output_lines hn (all_used List.Pairwise.nil fun p hp v hv => ?_)
    (all_used trivial fun p hp v hv => ?_)
  · cases List.mem_singleton.1 hp
    cases hv
    exact ⟨List.pairwise_singleton .., ⟨List.pairwise_singleton .., trivial, trivial⟩, trivial⟩
  · cases List.mem_singleton.1 hp
    cases hv
    exact ⟨trivial, ⟨trivial, trivial, trivial⟩, trivial⟩

/-- Objects inside one another, all with one key. -/
def nested : Nat → Json
  | 0 => .object []
  | n + 1 => .object [("k", nested n)]

theorem all_nested {q : Json → Prop} (hnil : q (.object [])) (hcons : ∀ j, q (.object [("k", j)])) :
    ∀ n, (nested n).All q
  | 0 => ⟨hnil, trivial⟩
  | n + 1 => ⟨hcons _, all_nested hnil hcons n, trivial⟩

/-- A configuration whose data is nested 126 deep. -/
def deepConfig : Config where
  patterns := [{ mask := "a:", template := some (.object [("userData", nested 125)]) }]

/-- The text is one line that is nested too deep for the reader. -/
def isTooDeepLine (s : List Char) : Bool :=
  match s.splitOn '\n' with
  | [line, []] =>
    match Json.parse line with
    | .error f => f.cause == .tooDeep
    | .ok _ => false
  | _ => false

theorem exists_of_isTooDeepLine {s : List Char} (h : isTooDeepLine s = true) :
    ∃ line p, s.splitOn '\n' = [line, []] ∧ Json.parse line = .error ⟨.tooDeep, p⟩ := by
  unfold isTooDeepLine at h
  split at h
  · next line hsplit =>
    split at h
    · next f hparse =>
      obtain ⟨cause, p⟩ := f
      cases eq_of_beq h
      exact ⟨line, p, hsplit, hparse⟩
    · cases h
  · cases h

/-- A line that is written, but cannot be read back. -/
theorem unreadable_line :
    (∀ t, Used deepConfig [] shortInput t →
      (Json.object t).All Json.Proper ∧ (Json.object t).All Json.NotFloat) ∧
    (filter deepConfig [] (.ok shortInput)).result = .ok 1 ∧
    ∃ line p, (filter deepConfig [] (.ok shortInput)).output.splitOn '\n' = [line, []] ∧
      Json.parse line = .error ⟨.tooDeep, p⟩ := by
  refine ⟨fun t ht => ⟨all_used List.Pairwise.nil (fun p hp v hv => ?_) t ht,
    all_used trivial (fun p hp v hv => ?_) t ht⟩, ?_⟩
  · cases List.mem_singleton.1 hp
    cases hv
    exact ⟨List.pairwise_singleton ..,
      all_nested List.Pairwise.nil (fun _ => List.pairwise_singleton ..) _, trivial⟩
  · cases List.mem_singleton.1 hp
    cases hv
    exact ⟨trivial, all_nested trivial (fun _ => trivial) _, trivial⟩
  · have hrun : ((filter deepConfig [] (.ok shortInput)).result.toOption.any (· == 1) &&
        isTooDeepLine (filter deepConfig [] (.ok shortInput)).output) = true := by
      decide +kernel
    obtain ⟨hn, hline⟩ := Bool.and_eq_true_iff.1 hrun
    obtain ⟨n, hn, h1⟩ := Mask.exists_ok_of_any hn
    cases eq_of_beq h1
    exact ⟨hn, exists_of_isTooDeepLine hline⟩

end UrlMask.Command
