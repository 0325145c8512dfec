import UrlMask.Mask.Basic
import UrlMask.Proofs.Json.Order
import UrlMask.Proofs.Request.Fields

/-!
# What is wrong with fields

Fields are set one after the other in the order of their names. The first one that cannot be set
decides, and what stands behind it makes no difference. That there is no URL is noticed only where
all fields can be set.

* `Draft.set_error_iff`: what is wrong with a field does not depend on the others.
* `Draft.foldlM_error`: of several fields the first that cannot be set decides.
* `FirstBad`, `exists_firstBad`: the least name with which something is wrong.
* `fault_of_first`: the fault that is reported is that of this name alone.
* `refused_iff_no_method`: for a value that stands for no method, fields are always refused.
-/
namespace UrlMask

namespace Request

open Members (Before Sorted)

variable {m m' : Members} {e : String × Json} {c : Field.Fault}

/-! ## One field -/

/-- No field has the name, or it does not take the value. -/
def Bad (e : String × Json) : Prop := ∀ f : Field, e.1 = f.name → ¬ f.Takes e.2

namespace Draft

variable {d : Draft}

/-- Whether a field can be set, and if not, why, does not depend on what has been set before. -/
theorem set_error_iff (d d' : Draft) (f : Field) (v : Json) :
    d.set f v = .error c ↔ d'.set f v = .error c := by
  cases f with
  | method =>
    simp only [set]
    cases Method.ofJson v <;> simp
  | _ => simp only [set, map_error]

theorem setNamed_error_iff (d d' : Draft) (e : String × Json) :
    d.setNamed e = .error c ↔ d'.setNamed e = .error c := by
  unfold setNamed
  cases Field.ofName? e.1 with
  | none => rfl
  | some f => exact set_error_iff d d' f e.2

/-- A field can be set just if nothing is wrong with it. -/
theorem exists_setNamed_iff (d : Draft) : (∃ d', d.setNamed e = .ok d') ↔ ¬ Bad e := by
  simp only [Bad, not_forall, not_not, setNamed_ok, ← exists_set_iff (d := d)]
  constructor
  · intro ⟨d', f, hf, h⟩
    exact ⟨f, hf, d', h⟩
  · intro ⟨f, hf, d', h⟩
    exact ⟨d', f, hf, h⟩

theorem bad_iff (d : Draft) : Bad e ↔ ∃ c, d.setNamed e = .error c := by
  rw [← not_not (a := Bad e), ← exists_setNamed_iff d]
  cases d.setNamed e <;> simp

/-! ## Several fields -/

theorem exists_foldlM_of_not_bad {l : Members} (d : Draft) (hl : ∀ a ∈ l, ¬ Bad a) :
    ∃ d', l.foldlM setNamed d = .ok d' := by
  refine exists_foldlM_iff.2 fun a ha => ?_
  simpa [Bad] using hl a ha

/-- Of several fields the first that cannot be set decides. -/
theorem foldlM_error {l r : Members} (hl : ∀ a ∈ l, ¬ Bad a)
    (he : ({} : Draft).setNamed e = .error c) (d : Draft) :
    (l ++ e :: r).foldlM setNamed d = .error c := by
  obtain ⟨d', hd'⟩ := exists_foldlM_of_not_bad d hl
  rw [List.foldlM_append, hd']
  show (e :: r).foldlM setNamed d' = .error c
  rw [List.foldlM_cons, (setNamed_error_iff _ d' e).1 he]
  rfl

/-- Where all fields can be set, there is nothing to say of them but that the URL is missing. -/
theorem missing_of_finish (h : d.finish = .error (.invalidFields c)) :
    c = .missingUrl ∧ d.url = none := by
  unfold finish at h
  split at h
  · next hurl =>
    cases h
    exact ⟨rfl, hurl⟩
  · split at h
    · cases h
    · split at h <;> cases h

end Draft

/-! ## The first name -/

/-- This is the member with the least name of those with which something is wrong. -/
structure FirstBad (m : Members) (e : String × Json) : Prop where
  mem : e ∈ m
  bad : Bad e
  first : ∀ a ∈ m, Bad a → a ≠ e → Before e.1 a.1

/-- If something is wrong with a member, one of them is the first. -/
theorem exists_firstBad (hm : Sorted m) (h : ∃ a ∈ m, Bad a) : ∃ e, FirstBad m e := by
  induction m with
  | nil =>
    obtain ⟨a, ha, -⟩ := h
    cases ha
  | cons d m ih =>
    obtain ⟨hfirst, hm⟩ := List.pairwise_cons.1 hm
    by_cases hd : Bad d
    · refine ⟨d, List.mem_cons_self, hd, fun a ha _ hne => ?_⟩
      exact hfirst a ((List.mem_cons.1 ha).resolve_left hne)
    · obtain ⟨a, ha, hbad⟩ := h
      have htail {a : String × Json} (ha : a ∈ d :: m) (hbad : Bad a) : a ∈ m := by
        rcases List.mem_cons.1 ha with rfl | ha
        · exact absurd hbad hd
        · exact ha
      obtain ⟨e, he⟩ := ih hm ⟨a, htail ha hbad, hbad⟩
      refine ⟨e, List.mem_cons_of_mem _ he.mem, he.bad, fun a ha hbad hne => ?_⟩
      exact he.first a (htail ha hbad) hbad hne

/-- Nothing is wrong with the members in front of it. -/
theorem FirstBad.split (hm : Sorted m) (h : FirstBad m e) :
    ∃ l r, m = l ++ e :: r ∧ ∀ a ∈ l, ¬ Bad a := by
  obtain ⟨l, r, rfl⟩ := List.append_of_mem h.mem
  refine ⟨l, r, rfl, fun a ha hbad => ?_⟩
  have hbefore : Before a.1 e.1 :=
    (List.pairwise_append.1 hm).2.2 a ha e List.mem_cons_self
  have hne : a ≠ e := fun he => hbefore.ne (congrArg Prod.fst he)
  exact hbefore.asymm (h.first a (List.mem_append_left _ ha) hbad hne)

/-- The fault of the first member is the fault of all of them. -/
theorem FirstBad.ofFields (hm : Sorted m) (h : FirstBad m e)
    (he : ({} : Draft).setNamed e = .error c) : ofFields m = .error (.invalidFields c) := by
  obtain ⟨l, r, rfl, hl⟩ := h.split hm
  rw [Request.ofFields, Draft.ofFields, Draft.foldlM_error hl he]

/-- A member stays the first where nothing changes up to its name. -/
theorem FirstBad.congr (h : FirstBad m e) (hm' : ∀ a, ¬ Before e.1 a.1 → (a ∈ m' ↔ a ∈ m)) :
    FirstBad m' e := by
  refine ⟨(hm' e fun he => he.ne rfl).2 h.mem, h.bad, fun a ha hbad hne => ?_⟩
  by_contra hb
  exact hb (h.first a ((hm' a hb).1 ha) hbad hne)

/-- It is the first also where only a URL stands beside it. -/
theorem FirstBad.alone (h : FirstBad m e) (u : String) :
    FirstBad (Members.insert e.1 e.2 [(Field.url.name, .string u)]) e := by
  refine ⟨Members.mem_insert_self .., h.bad, fun a ha hbad hne => ?_⟩
  rcases Members.mem_insert ha with rfl | ha
  · exact absurd rfl hne
  · cases List.mem_singleton.1 ha
    exact absurd ⟨u, rfl⟩ (hbad .url rfl)

/-- Where fields are refused, the fault is that of the first member with which something is wrong.
It is the same for this member with nothing but a URL, and whatever stands behind it. Where nothing
is wrong with any member, there is no URL. -/
theorem fault_of_first (hm : Sorted m) (h : ofFields m = .error (.invalidFields c)) :
    (∀ e, FirstBad m e → ({} : Draft).setNamed e = .error c ∧
      (∀ u, ofFields (Members.insert e.1 e.2 [(Field.url.name, .string u)]) =
        .error (.invalidFields c)) ∧
      ∀ m', Sorted m' → (∀ a, ¬ Before e.1 a.1 → (a ∈ m' ↔ a ∈ m)) →
        ofFields m' = .error (.invalidFields c)) ∧
    ((∃ e, FirstBad m e) ∨ (∀ e ∈ m, ¬ Bad e) ∧ c = .missingUrl) := by
  constructor
  · intro e he
    obtain ⟨c', hc⟩ := (Draft.bad_iff {}).1 he.bad
    have hsame := h.symm.trans (he.ofFields hm hc)
    cases hsame
    refine ⟨hc, fun u => (he.alone u).ofFields ?_ hc, fun m' hm' hagree => ?_⟩
    · exact Members.sorted_insert (List.pairwise_singleton ..)
    · exact (he.congr hagree).ofFields hm' hc
  · by_cases hbad : ∃ e ∈ m, Bad e
    · exact Or.inl (exists_firstBad hm hbad)
    · have hgood : ∀ e ∈ m, ¬ Bad e := fun e he hb => hbad ⟨e, he, hb⟩
      obtain ⟨d, hd⟩ := Draft.exists_foldlM_of_not_bad {} hgood
      rw [ofFields, Draft.ofFields, hd] at h
      exact Or.inr ⟨hgood, (Draft.missing_of_finish h).1⟩

/-- Fields with an item of a wrong kind, a URL of a wrong kind and an unknown name. -/
def faultyFields : Members :=
  [("errorMessages", .array [.string "a", .integer 1]), ("url", .null), ("zap", .null)]

/-- The item is reported, also where it stands beside a URL, or alone. -/
theorem fault_of_first_of_item :
    ofFields faultyFields = .error (.invalidFields (.mismatch (.type (.integer 1) .text))) ∧
    FirstBad faultyFields ("errorMessages", .array [.string "a", .integer 1]) ∧
    ofFields [("errorMessages", .array [.string "a", .integer 1]), ("url", .string "a:")] =
      .error (.invalidFields (.mismatch (.type (.integer 1) .text))) ∧
    ofFields [("errorMessages", .array [.string "a", .integer 1])] =
      .error (.invalidFields (.mismatch (.type (.integer 1) .text))) := by
  have hsorted : Sorted faultyFields := by
    simp [faultyFields, Sorted]
    decide
  have hfault : ofFields faultyFields =
      .error (.invalidFields (.mismatch (.type (.integer 1) .text))) := rfl
  have hbad : Bad ("errorMessages", .array [.string "a", .integer 1]) :=
    (Draft.bad_iff {}).2 ⟨.mismatch (.type (.integer 1) .text), rfl⟩
  have hfirst : FirstBad faultyFields ("errorMessages", .array [.string "a", .integer 1]) := by
    refine ⟨List.mem_cons_self, hbad, fun a ha _ hne => ?_⟩
    exact (List.pairwise_cons.1 hsorted).1 a ((List.mem_cons.1 ha).resolve_left hne)
  obtain ⟨-, halone, hbehind⟩ := (fault_of_first hsorted hfault).1 _ hfirst
  refine ⟨hfault, hfirst, halone "a:", hbehind _ (List.pairwise_singleton ..) fun a hafter => ?_⟩
  refine ⟨fun ha => List.mem_cons.2 (Or.inl (List.mem_singleton.1 ha)), fun ha => ?_⟩
  refine List.mem_singleton.2 ((List.mem_cons.1 ha).resolve_right fun ha => hafter ?_)
  exact (List.pairwise_cons.1 hsorted).1 a ha

/-! ## Methods -/

/-- Fields are refused wherever something is wrong with one of them. -/
theorem ofFields_of_bad (he : e ∈ m) (h : Bad e) : ∃ c, ofFields m = .error (.invalidFields c) := by
  unfold ofFields
  cases hd : Draft.ofFields m with
  | error c => exact ⟨c, rfl⟩
  | ok d =>
    obtain ⟨f, hf, ht⟩ := exists_draft_iff.1 ⟨d, hd⟩ e he
    exact absurd ht (h f hf)

/-- If all fields can be set, and the URL is among them, they are not refused as such. -/
theorem ofFields_of_url {u : String} (hm : (m.map (·.1)).Nodup) (hgood : ∀ a ∈ m, ¬ Bad a)
    (hu : (Field.url.name, .string u) ∈ m) : ofFields m ≠ .error (.invalidFields c) := by
  intro h
  obtain ⟨d, hd⟩ := Draft.exists_foldlM_of_not_bad {} hgood
  rw [ofFields, Draft.ofFields, hd] at h
  obtain ⟨s, -, hs⟩ := (Draft.says_of_foldlM hm hd .url).1 _ hu
  rw [(Draft.missing_of_finish h).2] at hs
  cases hs

theorem bad_method_iff {v : Json} :
    Bad (Field.method.name, v) ↔ ∀ x : Method, ¬ x.Means v := by
  constructor
  · exact fun h x hx => h .method rfl ⟨x, hx⟩
  · intro h f hf ht
    cases Field.name_inj.1 (show Field.method.name = f.name from hf)
    obtain ⟨x, hx⟩ := ht
    exact h x hx

/-- The values that stand for no method are those for which fields are refused whatever else is
given, by themselves or as the template of a mask. -/
theorem refused_iff_no_method {v : Json} : (∀ x : Method, ¬ x.Means v) ↔
    ∀ m : Members, (Field.method.name, v) ∈ m →
      (∃ c, ofFields m = .error (.invalidFields c)) ∧
      ∀ (mask : Mask) (url : String), mask.template = m →
        ∃ c, mask.requestFor url = .error (.invalidFields c) := by
  have hne : Field.method.name ≠ Field.url.name := by decide
  rw [← bad_method_iff]
  constructor
  · intro hbad m hv
    refine ⟨ofFields_of_bad hv hbad, ?_⟩
    rintro mask url rfl
    exact ofFields_of_bad (Members.mem_insert_of_ne hv hne) hbad
  · intro h
    by_contra hgood
    obtain ⟨⟨c, hc⟩, -⟩ := h [(Field.method.name, v), (Field.url.name, .string "a:")]
      List.mem_cons_self
    refine ofFields_of_url (by simp [hne]) (fun a ha => ?_)
      (List.mem_cons_of_mem _ List.mem_cons_self) hc
    rcases List.mem_cons.1 ha with rfl | ha
    · exact hgood
    · cases List.mem_singleton.1 ha
      exact fun hbad => hbad .url rfl ⟨"a:", rfl⟩

/-- An object is no name, but with the name of a method as its only key it stands for one. -/
theorem method_as_object :
    (∀ x : Method, Json.object [("GET", .null)] ≠ .string x.name) ∧
    ∃ r, ofFields [("method", .object [("GET", .null)]), ("url", .string "a:")] = .ok r ∧
      r.method = .get := by
  have hmade : (ofFields [("method", .object [("GET", .null)]),
      ("url", .string "a:")]).toOption.any (fun r => r.method == .get) = true := by
    decide +kernel
  refine ⟨fun x => nofun, ?_⟩
  cases hr : ofFields [("method", .object [("GET", .null)]), ("url", .string "a:")] with
  | error f =>
    rw [hr] at hmade
    cases hmade
  | ok r =>
    rw [hr] at hmade
    exact ⟨r, rfl, eq_of_beq hmade⟩

end Request

end UrlMask
