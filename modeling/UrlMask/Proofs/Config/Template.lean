import UrlMask.Config.Reading
import UrlMask.Proofs.Command.Filter
import UrlMask.Proofs.Json.Reading
import UrlMask.Proofs.Mask.Meaning
import UrlMask.Proofs.Toml.Keys

/-!
# The templates of a configuration

A pattern keeps the value that is given as its template, whatever it is. Only when its mask is built
it has to be an object. In a document only tables are objects, and dates and times, which arrive as
objects that hold their text.

* `patterns_of_text`: the patterns are those of the document, in its order.
* `template_of_readPattern`: their templates are those that are given.
* `proper_of_text`: the values in them are proper.
* `template_outcome`: the templates in the text of a configuration that are no tables.
-/
namespace UrlMask.Config

/-- What is given as the template of an entry: under its key, or as the third item of an entry that
is given as an array. -/
inductive GivesTemplate : Toml → Toml → Prop
  | entry {es : List (String × Toml)} {v : Toml} (h : (templateKey, v) ∈ es) :
    GivesTemplate (.table es) v
  | item {n m v : Toml} {r : List Toml} : GivesTemplate (.array (n :: m :: v :: r)) v

section Reading

variable {es : List (String × Toml)} {v : Toml}

/-- The patterns are those under their key; without it there are none. -/
theorem patterns_of_entries {c : Config} (hes : (es.map (·.1)).Nodup) (h : ofEntries es = .ok c) :
    (∀ v, (patternsKey, v) ∈ es → readPatterns v = .ok c.patterns) ∧
      ((∀ v, (patternsKey, v) ∉ es) → c.patterns = []) := by
  have hset (c : Config) (v : Toml) (c' : Config) (h : c.set (patternsKey, v) = .ok c') :
      readPatterns v = .ok c'.patterns := by
    unfold set at h
    rw [if_neg (show ¬ patternsKey = sizeLimitKey by decide), if_pos rfl] at h
    obtain ⟨ps, hps, rfl⟩ := map_ok.1 h
    exact hps
  have hskip (c : Config) (e : String × Toml) (c' : Config) (he : e.1 ≠ patternsKey)
      (h : c.set e = .ok c') : c'.patterns = c.patterns := by
    unfold set at h
    rw [if_neg he] at h
    split at h
    · obtain ⟨n, -, rfl⟩ := map_ok.1 h
      rfl
    · cases h
      rfl
  exact Span.foldlM_keyed (·.patterns) (fun v ps => readPatterns v = .ok ps) hset hskip hes h

/-- The template is that under its key; without it there is none. -/
theorem template_of_entries {d : PatternDraft} (hes : (es.map (·.1)).Nodup)
    (h : es.foldlM PatternDraft.set {} = .ok d) :
    (∀ v, (templateKey, v) ∈ es → d.template = some v.toJson) ∧
      ((∀ v, (templateKey, v) ∉ es) → d.template = none) := by
  have hset (d : PatternDraft) (v : Toml) (d' : PatternDraft)
      (h : d.set (templateKey, v) = .ok d') : d'.template = some v.toJson := by
    unfold PatternDraft.set at h
    rw [if_neg (show ¬ templateKey = nameKey by decide),
      if_neg (show ¬ templateKey = maskKey by decide), if_pos rfl] at h
    cases h
    rfl
  have hskip (d : PatternDraft) (e : String × Toml) (d' : PatternDraft) (he : e.1 ≠ templateKey)
      (h : d.set e = .ok d') : d'.template = d.template := by
    unfold PatternDraft.set at h
    rw [if_neg he] at h
    split at h
    · obtain ⟨n, -, rfl⟩ := map_ok.1 h
      rfl
    · split at h
      · obtain ⟨n, -, rfl⟩ := map_ok.1 h
        rfl
      · cases h
        rfl
  exact Span.foldlM_keyed (·.template) (fun v o => o = some v.toJson) hset hskip hes h

/-- A pattern that is given as a table has the template of its entries. -/
theorem template_of_finish {d : PatternDraft} {p : Pattern} (h : d.finish = .ok p) :
    p.template = d.template := by
  unfold PatternDraft.finish at h
  split at h <;> cases h
  rfl

theorem template_of_readPattern {e : Toml} {p : Pattern} (he : e.Sound) (h : readPattern e = .ok p)
    (hv : GivesTemplate e v) : p.template = some v.toJson := by
  cases hv with
  | @entry es v hv =>
    obtain ⟨d, hd, hp⟩ := bind_ok.1 h
    rw [template_of_finish hp]
    exact (template_of_entries he.1 hd).1 v hv
  | item =>
    obtain ⟨name, -, h⟩ := bind_ok.1 h
    obtain ⟨mask, -, h⟩ := bind_ok.1 h
    cases h
    rfl

/-- The other way round, a template has been given. -/
theorem exists_givesTemplate {e : Toml} {p : Pattern} {j : Json} (he : e.Sound)
    (h : readPattern e = .ok p) (hj : p.template = some j) :
    ∃ v, v.Sound ∧ GivesTemplate e v ∧ j = v.toJson := by
  unfold readPattern at h
  split at h
  · next es =>
    obtain ⟨d, hd, hp⟩ := bind_ok.1 h
    obtain ⟨hin, hout⟩ := template_of_entries he.1 hd
    rw [template_of_finish hp] at hj
    by_cases hno : ∀ v, (templateKey, v) ∉ es
    · rw [hout hno] at hj
      cases hj
    · simp only [not_forall, not_not] at hno
      obtain ⟨v, hv⟩ := hno
      rw [hin v hv] at hj
      cases hj
      exact ⟨v, Toml.sound_entries_iff.1 he.2 _ hv, .entry hv, rfl⟩
  · next l =>
    unfold readPatternItems at h
    split at h
    · cases h
    · obtain ⟨name, -, h⟩ := bind_ok.1 h
      cases h
    · next n m r =>
      obtain ⟨name, -, h⟩ := bind_ok.1 h
      obtain ⟨mask, -, h⟩ := bind_ok.1 h
      cases h
      cases r with
      | nil => cases hj
      | cons v r =>
        cases hj
        refine ⟨v, Toml.sound_items_iff.1 he v ?_, .item, rfl⟩
        exact List.mem_cons_of_mem _ (List.mem_cons_of_mem _ (List.mem_cons_self ..))
  · cases h
  · cases h

theorem ofText_ok {text : List Char} {c : Config} (h : ofText text = .ok c) :
    ∃ es, Toml.parse? text = some (.table es) ∧ ofEntries es = .ok c := by
  unfold ofText at h
  split at h
  · next es hes =>
    refine ⟨es, hes, ?_⟩
    cases ho : ofEntries es <;> rw [ho] at h <;> cases h
    rfl
  · cases h

/-- The patterns of a text are those of its document, one for each entry. -/
theorem patterns_of_text {text : List Char} {c : Config} {l : List Toml}
    (hc : ofText text = .ok c) (hes : Toml.parse? text = some (.table es))
    (hl : (patternsKey, .array l) ∈ es) :
    (∀ e ∈ l, e.Sound) ∧ List.Forall₂ (fun e p => readPattern e = .ok p) l c.patterns := by
  have hsound := Toml.sound_of_parse hes
  obtain ⟨es', hes', hread⟩ := ofText_ok hc
  rw [hes] at hes'
  cases hes'
  have hps := (patterns_of_entries hsound.1 hread).1 _ hl
  exact ⟨Toml.sound_items_iff.1 (Toml.sound_entries_iff.1 hsound.2 _ hl), Span.mapM_ok_iff.1 hps⟩

end Reading

/-! ## Values -/

mutual

/-- In the place of a value of a document stands a value with its members in order and its integers
in range. -/
theorem proper_toJson : (v : Toml) → v.Sound → v.toJson.All Json.Proper
  | .string _, _ | .boolean _, _ | .float (.finite _), _ | .float (.infinite _), _
  | .float .nan, _ => trivial
  | .integer _, ⟨hlow, hhigh⟩ => ⟨hlow, Int.lt_trans hhigh (by decide)⟩
  | .moment _, _ => ⟨List.pairwise_singleton .., trivial, trivial⟩
  | .array l, h => ⟨trivial, Json.all_items_iff.2 (proper_items l h)⟩
  | .table es, h =>
    ⟨Members.sorted_ofList _, Json.all_members_iff.2 fun e he =>
      proper_entries es h.2 e (Members.mem_ofList he)⟩

theorem proper_items : (l : List Toml) → Toml.Sound.items l →
    ∀ j ∈ Toml.toJson.items l, j.All Json.Proper
  | [], _ => nofun
  | v :: vs, h => List.forall_mem_cons.2 ⟨proper_toJson v h.1, proper_items vs h.2⟩

theorem proper_entries : (es : List (String × Toml)) → Toml.Sound.entries es →
    ∀ e ∈ Toml.toJson.entries es, e.2.All Json.Proper
  | [], _ => nofun
  | (_, v) :: es, h => List.forall_mem_cons.2 ⟨proper_toJson v h.1, proper_entries es h.2⟩

end

/-- All templates of a configuration that was read are proper values. -/
theorem proper_of_text {text : List Char} {c : Config} (h : ofText text = .ok c) :
    ∀ p ∈ c.patterns, ∀ j, p.template = some j → j.All Json.Proper := by
  intro p hp j hj
  obtain ⟨es, hes, hread⟩ := ofText_ok h
  have hsound := Toml.sound_of_parse hes
  obtain ⟨hin, hout⟩ := patterns_of_entries hsound.1 hread
  by_cases hno : ∀ v, (patternsKey, v) ∉ es
  · rw [hout hno] at hp
    cases hp
  · simp only [not_forall, not_not] at hno
    obtain ⟨v, hv⟩ := hno
    cases v with
    | array l =>
      obtain ⟨hall, hread⟩ := patterns_of_text h hes hv
      obtain ⟨e, he, hread⟩ := Span.exists_partner hread hp
      obtain ⟨v, hv, -, rfl⟩ := exists_givesTemplate (hall e he) hread hj
      exact proper_toJson v hv
    | _ => cases hin _ hv

/-! ## Building -/

section Building

variable {p : Pattern} {v : Toml}

/-- Only tables and moments stand in the place of objects. -/
theorem toJson_not_object (hmoment : ∀ m, v ≠ .moment m) (htable : ∀ es, v ≠ .table es)
    (m : Members) : v.toJson ≠ .object m := by
  cases v with
  | float x => cases x <;> exact nofun
  | moment m => exact absurd rfl (hmoment m)
  | table es => exact absurd rfl (htable es)
  | _ => exact nofun

/-- A template that is no object is refused, whatever the mask and the limit are. -/
theorem build_of_not_object {j : Json} (hp : p.template = some j) (hj : ∀ m, j ≠ .object m)
    (limit : Nat) : p.build limit = .error (.invalidTemplate j.kind) := by
  have hfields : p.fields = .error (.invalidTemplate j.kind) := by
    unfold Pattern.fields
    rw [hp]
    cases j with
    | object m => exact absurd rfl (hj m)
    | _ => rfl
  unfold Pattern.build
  rw [hfields]

/-- A list of patterns with one that is refused is not built. -/
theorem buildConfigured_error {ps : List Pattern} {limit : Nat} {f : Mask.Fault} (hp : p ∈ ps)
    (h : p.build limit = .error f) : ∃ f, (Command.buildConfigured limit ps).result = .error f := by
  have hseen := Prod.mk.inj (Command.seen_buildConfigured limit ps)
  rw [hseen.2]
  cases hm : List.mapM Command.labelled _ with
  | error f => exact ⟨f, rfl⟩
  | ok masks =>
    have hmem := List.mem_map_of_mem
      (f := fun p => (p.label, (p.build limit).mapError fun f =>
        Command.Fault.during (.buildPattern p.label) (.mask f))) hp
    rw [Command.mapM_labelled_ok.1 hm, h] at hmem
    obtain ⟨e, -, he⟩ := List.mem_map.1 hmem
    cases (Prod.mk.inj he).2

end Building

/-- A template that is no table is kept as it is. Of those that are no date or time either no mask
is built, and neither are the masks of the configuration. A date or time becomes a template that
holds its text. -/
theorem template_outcome {text : List Char} {c : Config} {es : List (String × Toml)}
    {l : List Toml} {i : Nat} {e v : Toml} (hc : ofText text = .ok c)
    (hes : Toml.parse? text = some (.table es)) (hl : (patternsKey, .array l) ∈ es)
    (he : l[i]? = some e) (hv : GivesTemplate e v) (htable : ∀ es, v ≠ .table es) :
    ∃ p, c.patterns[i]? = some p ∧ p.template = some v.toJson ∧
      ((∀ m, v ≠ .moment m) → ∀ limit, p.build limit = .error (.invalidTemplate v.toJson.kind) ∧
        ∃ f, (Command.buildConfigured limit c.patterns).result = .error f) ∧
      ∀ m, v = .moment m → ∀ limit, p.build limit =
        Mask.ofText p.mask.toList [(Toml.momentKey, .string (String.ofList m.text))] limit := by
  obtain ⟨hsound, hall⟩ := patterns_of_text hc hes hl
  obtain ⟨p, hp, hread⟩ := Span.exists_partner_at hall he
  have htemplate := template_of_readPattern (hsound e (List.mem_of_getElem? he)) hread hv
  refine ⟨p, hp, htemplate, fun hmoment limit => ?_, ?_⟩
  · have hbuild := build_of_not_object htemplate (toJson_not_object hmoment htable) limit
    exact ⟨hbuild, buildConfigured_error (List.mem_of_getElem? hp) hbuild⟩
  · rintro m rfl limit
    unfold Pattern.build Pattern.fields
    rw [htemplate]
    rfl

/-! ## Texts -/

/-- The entries of a document that has one pattern, with the mask `a` and this template. -/
def onePattern (v : Toml) : List (String × Toml) :=
  [(patternsKey, .array [.table [(maskKey, .string "a"), (templateKey, v)]])]

/-- Whether a document is of this kind, with a template that passes. -/
def isOnePattern (ok : Toml → Bool) : Toml → Bool
  | .table [(k, .array [.table [(l, .string s), (m, v)]])] =>
    k == patternsKey && l == maskKey && s == "a" && m == templateKey && ok v
  | _ => false

theorem parse_of_isOnePattern {ok : Toml → Bool} {text : List Char}
    (h : (Toml.parse? text).any (isOnePattern ok) = true) :
    ∃ v, ok v = true ∧ Toml.parse? text = some (.table (onePattern v)) := by
  obtain ⟨t, ht, hok⟩ := (Option.any_eq_true ..).1 h
  unfold isOnePattern at hok
  split at hok
  · simp only [Bool.and_eq_true, beq_iff_eq] at hok
    obtain ⟨⟨⟨⟨rfl, rfl⟩, rfl⟩, rfl⟩, hv⟩ := hok
    exact ⟨_, hv, ht⟩
  · cases hok

def namedText : List Char := "[[patterns]]\npurl = \"a\"\ntemplate = \"GET\"\n".toList

def isGet : Toml → Bool
  | .string s => s == "GET"
  | _ => false

theorem parse_namedText :
    Toml.parse? namedText = some (.table (onePattern (.string "GET"))) := by
  have hread : (Toml.parse? namedText).any (isOnePattern isGet) = true := by decide +kernel
  obtain ⟨v, hv, hparse⟩ := parse_of_isOnePattern hread
  unfold isGet at hv
  split at hv
  · rwa [eq_of_beq hv] at hparse
  · cases hv

/-- A text is refused. -/
theorem template_outcome_of_name : ∃ c p, ofText namedText = .ok c ∧ c.patterns[0]? = some p ∧
    (∀ limit, p.build limit = .error (.invalidTemplate "string")) ∧
    ∃ f, (Command.buildConfigured c.sizeLimit c.patterns).result = .error f := by
  have hc : ofText namedText =
      .ok { patterns := [{ mask := "a", template := some (.string "GET") }] } := by
    rw [ofText, parse_namedText]
    rfl
  obtain ⟨p, hp, -, hbuild, -⟩ := template_outcome (i := 0) hc parse_namedText
    (List.mem_singleton_self _) rfl
    (.entry (List.mem_cons_of_mem _ (List.mem_singleton_self _))) nofun
  exact ⟨_, p, hc, hp, fun limit => (hbuild nofun limit).1, (hbuild nofun _).2⟩

def dateText : List Char := "[[patterns]]\npurl = \"a\"\ntemplate = 1979-05-27\n".toList

def date : Toml := .moment ⟨some ⟨1979, 5, 27⟩, none, none⟩

def isDate : Toml → Bool
  | .moment m => m == ⟨some ⟨1979, 5, 27⟩, none, none⟩
  | _ => false

theorem parse_dateText : Toml.parse? dateText = some (.table (onePattern date)) := by
  have hread : (Toml.parse? dateText).any (isOnePattern isDate) = true := by decide +kernel
  obtain ⟨v, hv, hparse⟩ := parse_of_isOnePattern hread
  unfold isDate at hv
  split at hv
  · rwa [eq_of_beq hv] at hparse
  · cases hv

/-- A date is no table, but the text is accepted and the mask is built. -/
theorem accepted_date : ∃ es e c p m, Toml.parse? dateText = some (.table es) ∧
    (patternsKey, .array [e]) ∈ es ∧ GivesTemplate e date ∧ (∀ es, date ≠ .table es) ∧
    ofText dateText = .ok c ∧ c.patterns[0]? = some p ∧ p.build c.sizeLimit = .ok m := by
  have hc : ofText dateText = .ok { patterns := [{
      mask := "a", template := some (.object [(Toml.momentKey, .string "1979-05-27")]) }] } := by
    rw [ofText, parse_dateText]
    rfl
  have hbuild : (Pattern.build { mask := "a", template := some (.object
      [(Toml.momentKey, .string "1979-05-27")]) } Mask.defaultLimit).toOption.any
        (fun _ => true) = true := by
    decide +kernel
  obtain ⟨m, hm, -⟩ := Mask.exists_ok_of_any hbuild
  exact ⟨_, _, _, _, m, parse_dateText, List.mem_singleton_self _,
    .entry (List.mem_cons_of_mem _ (List.mem_singleton_self _)), nofun, hc, rfl, hm⟩

end UrlMask.Config
