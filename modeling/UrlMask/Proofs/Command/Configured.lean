import UrlMask.Proofs.Command.Filter
import UrlMask.Proofs.Mask.Meaning

/-!
# Configured masks and given masks

A filter takes its masks from the configuration, or from the arguments if there are any. Where the
patterns of the configuration have no names and set no fields, it makes no difference which way the
same masks are taken: the run is the same from there on. Only a mask that cannot be built is told
of differently. The fault of the configuration says which pattern it was, the other one does not.

* `Pattern.Plain`: a pattern that is a mask and nothing more.
* `buildConfigured_eq`: where all masks can be built, they are built alike.
* `buildConfigured_eq_during`: where one cannot, the fault is the same but for what was being done.
* `filter_configured`: so it is with the whole run.
-/
namespace UrlMask

/-- The pattern is the mask of a text and nothing more: it has no name, and its template sets no
fields. -/
structure Pattern.Plain (p : Pattern) (text : String) : Prop where
  unnamed : p.name = none
  mask_eq : p.mask = text
  no_fields : p.template = none ∨ p.template = some (.object [])

section Plain

variable {p : Pattern} {text : String}

theorem Pattern.Plain.label_eq (h : p.Plain text) : p.label = text := by
  rw [Pattern.label, h.unnamed, h.mask_eq]
  rfl

theorem Pattern.Plain.build_eq (h : p.Plain text) (limit : Nat) :
    p.build limit = Mask.ofText text.toList [] limit := by
  have hfields : p.fields = .ok [] := by
    rw [Pattern.fields]
    rcases h.no_fields with ht | ht
    · rw [ht]
    · rw [ht]
      rfl
  rw [Pattern.build, hfields, h.mask_eq]

end Plain

namespace Command

open Report

variable {limit : Nat} {ps : List Pattern} {ts : List String} {t : String} {f : Mask.Fault}

/-! ## Building the masks -/

/-- The mask of the text can be built. -/
def Builds (limit : Nat) (t : String) : Prop := ∃ m, Mask.ofText t.toList [] limit = .ok m

/-- The first of the texts whose mask cannot be built, and why not. -/
def FirstRefused (limit : Nat) (ts : List String) (t : String) (f : Mask.Fault) : Prop :=
  ∃ before after, ts = before ++ t :: after ∧ (∀ b ∈ before, Builds limit b) ∧
    Mask.ofText t.toList [] limit = .error f

theorem FirstRefused.mem (h : FirstRefused limit ts t f) : t ∈ ts := by
  obtain ⟨before, after, rfl, -⟩ := h
  exact List.mem_append_right _ (List.mem_cons_self ..)

theorem FirstRefused.not_builds (h : FirstRefused limit ts t f) : ¬ Builds limit t := by
  rintro ⟨m, hm⟩
  obtain ⟨-, -, -, -, hf⟩ := h
  cases hf.symm.trans hm

/-- Either all masks can be built, or there is a first that cannot. -/
theorem builds_or_refused (limit : Nat) (ts : List String) :
    (∀ t ∈ ts, Builds limit t) ∨ ∃ t f, FirstRefused limit ts t f := by
  cases hbuilt : ts.mapM fun t => Mask.ofText t.toList [] limit with
  | ok ms =>
    refine Or.inl fun t ht => ?_
    obtain ⟨m, -, hm⟩ := Span.exists_partner (List.Forall₂.flip (Span.mapM_ok_iff.1 hbuilt)) ht
    exact ⟨m, hm⟩
  | error f =>
    obtain ⟨before, t, after, hts, hbefore, hf⟩ := Span.mapM_error_iff.1 hbuilt
    exact Or.inr ⟨t, f, before, after, hts, hbefore, hf⟩

/-- Where all masks can be built, configured and given ones are built alike. -/
theorem buildConfigured_eq (h : List.Forall₂ Pattern.Plain ps ts)
    (hbuilds : ∀ t ∈ ts, Builds limit t) : buildConfigured limit ps = buildGiven limit ts := by
  induction h with
  | nil => rfl
  | cons hp hps ih =>
    obtain ⟨⟨m, hm⟩, hrest⟩ := List.forall_mem_cons.1 hbuilds
    rw [buildConfigured, buildGiven, hp.label_eq, hp.build_eq, ih hrest, hm]
    rfl

theorem seen_buildGiven_of_refused (h : FirstRefused limit ts t f) :
    (buildGiven limit ts).seen = ([], .error (.mask f)) := by
  obtain ⟨before, after, rfl, hbefore, hf⟩ := h
  rw [seen_buildGiven, List.map_append, List.map_cons, hf]
  refine congrArg _ (mapM_labelled_error.2 ⟨_, _, _, rfl, ?_⟩)
  intro e he
  obtain ⟨b, hb, rfl⟩ := List.mem_map.1 he
  obtain ⟨m, hm⟩ := hbefore b hb
  exact ⟨m, by rw [hm]; rfl⟩

/-- Where a mask cannot be built, the fault of the configuration says which pattern it was. -/
theorem buildConfigured_eq_during (h : List.Forall₂ Pattern.Plain ps ts)
    (hf : FirstRefused limit ts t f) :
    buildConfigured limit ps = during (.buildPattern t) (buildGiven limit ts) := by
  obtain ⟨before, after, rfl, hbefore, hf⟩ := hf
  induction before generalizing ps with
  | nil =>
    cases h with
    | cons hp hps =>
      rw [List.nil_append, buildConfigured, buildGiven, hp.label_eq, hp.build_eq, hf]
      rfl
  | cons b before ih =>
    cases h with
    | cons hp hps =>
      obtain ⟨⟨m, hm⟩, hbefore⟩ := List.forall_mem_cons.1 hbefore
      rw [List.cons_append, buildConfigured, buildGiven, hp.label_eq, hp.build_eq,
        ih hps hbefore, hm, during_bind]
      simp only [during_bind]
      rfl

/-! ## The run -/

theorem filterMasks_configured (limit : Nat) (ps : List Pattern) :
    filterMasks ⟨limit, ps⟩ [] = buildConfigured limit ps >>= fun masks =>
      if masks.isEmpty then Report.fail .noPatterns else return masks := rfl

theorem filterMasks_given (others : List Pattern) (hne : ts ≠ []) :
    filterMasks ⟨limit, others⟩ ts = buildGiven limit ts >>= fun masks =>
      if masks.isEmpty then Report.fail .noPatterns else return masks := by
  cases ts with
  | nil => exact absurd rfl hne
  | cons t ts => rfl

/-- A filter that goes by a configuration of masks and nothing more runs as it does with these masks
given, whatever is configured then. If a mask cannot be built, both fail before anything is read or
written, and the fault of the configuration has one link more in front, which names the first
pattern that cannot be built. -/
theorem filter_configured (h : List.Forall₂ Pattern.Plain ps ts) (hne : ts ≠ []) (limit : Nat)
    (others : List Pattern) (input : Except Unreadable (List UInt8)) :
    ((∀ t ∈ ts, Builds limit t) ∧
      filter ⟨limit, ps⟩ [] input = filter ⟨limit, others⟩ ts input) ∨
    ∃ t f, FirstRefused limit ts t f ∧
      (filter ⟨limit, others⟩ ts input).seen = ([], .error (.mask f)) ∧
      (filter ⟨limit, ps⟩ [] input).seen = ([], .error (.during (.buildPattern t) (.mask f))) ∧
      (Fault.during (.buildPattern t) (.mask f)).links =
        s!"configured pattern '{t}'" :: (Fault.mask f).links := by
  rcases builds_or_refused limit ts with hbuilds | ⟨t, f, hf⟩
  · refine Or.inl ⟨hbuilds, ?_⟩
    rw [filter, filter, filterMasks_configured, filterMasks_given others hne,
      buildConfigured_eq h hbuilds]
  · refine Or.inr ⟨t, f, hf, ?_, ?_, rfl⟩
    · rw [filter, filterMasks_given others hne]
      exact seen_bind_error (seen_bind_error (seen_buildGiven_of_refused hf))
    · rw [filter, filterMasks_configured, buildConfigured_eq_during h hf]
      refine seen_bind_error (seen_bind_error ?_)
      rw [seen_during, seen_buildGiven_of_refused hf]
      rfl

/-! ## Runs -/

/-- A pattern that is a mask and sets no fields. -/
def plainPattern : Pattern := { mask := "a:[b+]", template := some (.object []) }

theorem plain_plainPattern : plainPattern.Plain "a:[b+]" := ⟨rfl, rfl, Or.inr rfl⟩

theorem builds_plainPattern : Builds 100000 "a:[b+]" := by
  have hbuilt : (Mask.ofText "a:[b+]".toList [] 100000).toOption.any (fun _ => true) = true := by
    decide +kernel
  obtain ⟨m, hm, -⟩ := Mask.exists_ok_of_any hbuilt
  exact ⟨m, hm⟩

/-- A pattern whose mask cannot be built. -/
def brokenPattern : Pattern := { mask := "[(" }

theorem plain_brokenPattern : brokenPattern.Plain "[(" := ⟨rfl, rfl, Or.inl rfl⟩

theorem not_builds_brokenPattern : ¬ Builds 100000 "[(" := by
  rintro ⟨m, hm⟩
  have hrefused : (Mask.ofText "[(".toList [] 100000).toOption.isSome = false := by decide +kernel
  rw [hm] at hrefused
  cases hrefused

/-- A line that matches, and one that does not. -/
def twoLines : List UInt8 := Utf8.encode "a:bb\na:\n".toList

/-- With a mask that can be built, one line is written, whether the mask is configured or given.
With another one behind it that cannot be built, the run fails before it looks for its input, and
the fault of the configuration names this mask. -/
theorem filter_configured_of_patterns :
    (List.Forall₂ Pattern.Plain [plainPattern] ["a:[b+]"] ∧
      filter ⟨100000, [plainPattern]⟩ [] (.ok twoLines) =
        filter ⟨100000, [brokenPattern]⟩ ["a:[b+]"] (.ok twoLines) ∧
      (filter ⟨100000, [plainPattern]⟩ [] (.ok twoLines)).result = .ok 1) ∧
    List.Forall₂ Pattern.Plain [plainPattern, brokenPattern] ["a:[b+]", "[("] ∧
      ["a:[b+]", "[("] ≠ [] ∧
      ∃ f, (filter ⟨100000, []⟩ ["a:[b+]", "[("] (.error .missing)).seen = ([], .error (.mask f)) ∧
        (filter ⟨100000, [plainPattern, brokenPattern]⟩ [] (.error .missing)).seen =
          ([], .error (.during (.buildPattern "[(") (.mask f))) ∧
        (Fault.during (.buildPattern "[(") (.mask f)).links =
          ["configured pattern '[('", (Fault.mask f).message] := by
  have hone : List.Forall₂ Pattern.Plain [plainPattern] ["a:[b+]"] := .cons plain_plainPattern .nil
  have htwo : List.Forall₂ Pattern.Plain [plainPattern, brokenPattern] ["a:[b+]", "[("] :=
    .cons plain_plainPattern (.cons plain_brokenPattern .nil)
  have hne : ["a:[b+]", "[("] ≠ [] := List.cons_ne_nil _ _
  refine ⟨⟨hone, ?_, ?_⟩, htwo, hne, ?_⟩
  · rcases filter_configured hone (List.cons_ne_nil _ _) 100000 [brokenPattern] (.ok twoLines)
      with ⟨-, heq⟩ | ⟨t, f, hf, -⟩
    · exact heq
    · cases List.mem_singleton.1 hf.mem
      exact absurd builds_plainPattern hf.not_builds
  · have hrun : (filter ⟨100000, [plainPattern]⟩ [] (.ok twoLines)).result.toOption.any (· == 1) =
        true := by
      decide +kernel
    obtain ⟨n, hn, h1⟩ := Mask.exists_ok_of_any hrun
    rw [hn, eq_of_beq h1]
  · rcases filter_configured htwo hne 100000 [] (.error .missing)
      with ⟨hbuilds, -⟩ | ⟨t, f, hf, hgiven, hconfigured, hlinks⟩
    · exact absurd (hbuilds "[(" (by simp)) not_builds_brokenPattern
    · rcases List.mem_pair.1 hf.mem with rfl | rfl
      · exact absurd builds_plainPattern hf.not_builds
      · exact ⟨f, hgiven, hconfigured, hlinks⟩

end Command

end UrlMask
