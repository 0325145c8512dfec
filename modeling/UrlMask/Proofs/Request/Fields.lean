import Mathlib.Data.List.Nodup
import Mathlib.Data.Set.List
import UrlMask.Proofs.Text.Span
import UrlMask.Request.Basic

/-!
# What fields make a request

Fields are refused for what is wrong with them before their URL is looked at, and for their URL
before their payload is.

* `Draft.exists_set_iff`: a field can be set to the values that it takes.
* `Draft.says_of_foldlM`: a draft says of each field what was given for it.
* `ofFields_outcome`: which fields make a request, and for what the others are refused.
-/
namespace UrlMask

namespace Method

/-- The values that stand for a method: its name, alone or as the only key of an object with nothing
under it. -/
def Means (m : Method) (v : Json) : Prop := v = .string m.name ∨ v = .object [(m.name, .null)]

theorem ofName?_eq_some {s : String} {m : Method} : ofName? s = some m ↔ s = m.name := by
  constructor
  · intro h
    exact (beq_iff_eq.1 (List.find?_some h :)).symm
  · rintro rfl
    exact ofName?_name m

theorem ofName_ok {s : String} {m : Method} : ofName s = .ok m ↔ s = m.name := by
  rw [← ofName?_eq_some]
  unfold ofName
  cases ofName? s <;> simp

theorem ofJson_ok {v : Json} {m : Method} : ofJson v = .ok m ↔ m.Means v := by
  unfold ofJson Means
  split
  · simp [ofName_ok]
  · next k v =>
    simp only [reduceCtorEq, false_or, Json.object.injEq, List.cons.injEq, Prod.mk.injEq, and_true]
    split
    · next f hk =>
      simp only [reduceCtorEq, false_iff]
      rintro ⟨rfl, -⟩
      rw [ofName_ok.2 rfl] at hk
      cases hk
    · next m' hk =>
      rw [← ofName_ok, hk]
      simp
    · next hv =>
      simp only [reduceCtorEq, false_iff]
      exact fun h => hv h.2
  · next h =>
    simp only [reduceCtorEq, false_or, false_iff, Json.object.injEq]
    exact h _ _
  · next hs _ ho =>
    simp only [reduceCtorEq, false_iff, not_or]
    exact ⟨hs _, ho _⟩

theorem Means.unique {v : Json} {m m' : Method} (h : m.Means v) (h' : m'.Means v) : m = m' :=
  Except.ok.inj ((ofJson_ok.2 h).symm.trans (ofJson_ok.2 h'))

end Method

namespace Request

/-! ## Values -/

section Values

variable {v : Json}

theorem readText_ok {s : String} : readText v = .ok s ↔ v = .string s := by
  cases v <;> simp [readText, Json.string?]

theorem readBoolean_ok {b : Bool} : readBoolean v = .ok b ↔ v = .bool b := by
  cases v <;> simp [readBoolean, Json.bool?]

theorem readMembers_ok {m : Members} : readMembers v = .ok m ↔ v = .object m := by
  cases v <;> simp [readMembers]

theorem readWord32_ok {n : UInt32} : readWord32 v = .ok n ↔ v = .integer n.toNat := by
  cases v with
  | integer k =>
    simp only [readWord32, Json.integer.injEq]
    split
    · next h =>
      obtain ⟨i, rfl⟩ := Int.eq_ofNat_of_zero_le h.1
      have hi : i < 2 ^ 32 := by
        have := h.2
        simp at this
        omega
      rw [Except.ok.injEq, ← UInt32.toNat_inj, Int.toNat_natCast, UInt32.toNat_ofNat_of_lt' hi]
      omega
    · next h =>
      simp only [reduceCtorEq, false_iff]
      rintro rfl
      have := n.toNat_lt
      exact h ⟨by omega, by simp; omega⟩
  | _ => simp [readWord32]

theorem readOptionalText_ok {o : Option String} : readOptionalText v = .ok o ↔
    v = .null ∧ o = none ∨ ∃ s, v = .string s ∧ o = some s := by
  cases v <;> simp [readOptionalText, readText, Json.string?, Except.map, eq_comm]

theorem readTexts_ok {l : List String} : readTexts v = .ok l ↔ v = .array (l.map .string) := by
  cases v with
  | array l' =>
    simp only [readTexts, Span.mapM_ok_iff, readText_ok, Json.array.injEq]
    rw [← List.forall₂_eq_eq_eq, List.forall₂_map_right_iff]
  | _ => simp [readTexts]

theorem readTextMembers_ok {l : List (String × String)} : readTextMembers v = .ok l ↔
    v = .object (l.map fun e => (e.1, .string e.2)) := by
  cases v with
  | object m =>
    have he (e : String × Json) (p : String × String) :
        (readText e.2).map (e.1, ·) = .ok p ↔ e = (p.1, .string p.2) := by
      obtain ⟨k, v⟩ := e
      obtain ⟨k', s⟩ := p
      simp [map_ok, readText_ok, and_comm]
    simp only [readTextMembers, Span.mapM_ok_iff, he, Json.object.injEq]
    rw [← List.forall₂_eq_eq_eq, List.forall₂_map_right_iff]
  | _ => simp [readTextMembers]

end Values

/-! ## Fields -/

namespace Field

theorem ofName?_eq_some {s : String} {f : Field} : ofName? s = some f ↔ s = f.name := by
  constructor
  · intro h
    exact (beq_iff_eq.1 (List.find?_some h :)).symm
  · rintro rfl
    exact ofName?_name f

theorem ofName?_eq_none {s : String} : ofName? s = none ↔ ∀ f : Field, f.name ≠ s := by
  constructor
  · rintro h f rfl
    rw [ofName?_name] at h
    cases h
  · intro h
    cases hf : ofName? s with
    | none => rfl
    | some f => exact absurd (ofName?_eq_some.1 hf).symm (h f)

theorem name_inj {f g : Field} : f.name = g.name ↔ f = g := by
  rw [← ofName?_eq_some, ofName?_name, Option.some_inj]

/-- The values that a field takes. -/
def Takes (f : Field) (v : Json) : Prop :=
  match f with
  | url | uniqueKey => ∃ s, v = .string s
  | method => ∃ m : Method, m.Means v
  | payload => v = .null ∨ ∃ s, v = .string s
  | headers => ∃ m, v = .object m ∧ ∀ e ∈ m, ∃ s, e.2 = .string s
  | userData => ∃ m, v = .object m
  | keepUrlFragment | noRetry => ∃ b, v = .bool b
  | retryCount => ∃ n, v = .integer n ∧ 0 ≤ n ∧ n < Nat.pow 2 32
  | errorMessages => ∃ l, v = .array l ∧ ∀ e ∈ l, ∃ s, e = .string s

end Field

namespace Draft

variable {d d' : Draft} {f g : Field} {v : Json} {m : Members}

/-- What a draft says of a field is what this value stands for. -/
def Says (d : Draft) (f : Field) (v : Json) : Prop :=
  match f with
  | .url => ∃ s, v = .string s ∧ d.url = some s
  | .uniqueKey => v = .string d.uniqueKey
  | .method => d.method.Means v
  | .payload => v = .null ∧ d.payload = none ∨ ∃ s, v = .string s ∧ d.payload = some s
  | .headers => v = .object (d.headers.map fun e => (e.1, .string e.2))
  | .userData => v = .object d.userData
  | .keepUrlFragment => v = .bool d.keepUrlFragment
  | .retryCount => v = .integer d.retryCount.toNat
  | .noRetry => v = .bool d.noRetry
  | .errorMessages => v = .array (d.errorMessages.map .string)

-- The equations of the functions by field are derived here, once for the proofs below.
attribute [local simp] set Says Field.Takes

/-- A field is set to what a value says, and the others stay as they are. -/
theorem says_of_set (h : d.set f v = .ok d') :
    d'.Says f v ∧ ∀ g, g ≠ f → ∀ w, d'.Says g w ↔ d.Says g w := by
  cases f with
  | method =>
    simp only [set] at h
    split at h
    · next x hx =>
      cases h
      refine ⟨Method.ofJson_ok.1 hx, fun g hg w => ?_⟩
      cases g <;> first | exact absurd rfl hg | exact Iff.rfl
    · cases h
  | _ =>
    simp only [set] at h
    obtain ⟨x, hx, rfl⟩ := map_ok.1 h
    simp only [readText_ok, readOptionalText_ok, readTextMembers_ok, readMembers_ok,
      readBoolean_ok, readWord32_ok, readTexts_ok] at hx
    refine ⟨?_, fun g hg w => ?_⟩
    · first | exact hx | exact ⟨_, hx, rfl⟩
    · cases g <;> first | exact absurd rfl hg | exact Iff.rfl

/-- The lists of values of one kind. -/
theorem exists_map_iff {α β : Type} {k : List β → Json} {g : α → β} {p : β → Prop}
    (hp : ∀ b, p b ↔ ∃ a, g a = b) :
    (∃ l : List α, v = k (l.map g)) ↔ ∃ l, v = k l ∧ ∀ b ∈ l, p b := by
  constructor
  · rintro ⟨l, rfl⟩
    refine ⟨_, rfl, fun b hb => ?_⟩
    obtain ⟨a, -, ha⟩ := List.mem_map.1 hb
    exact (hp b).2 ⟨a, ha⟩
  · rintro ⟨l, rfl, hl⟩
    have : l ∈ Set.range (List.map g) := by
      rw [Set.range_list_map]
      exact fun b hb => (hp b).1 (hl b hb)
    obtain ⟨l, rfl⟩ := this
    exact ⟨l, rfl⟩

/-- A field can be set to the values that it takes, and to no others. -/
theorem exists_set_iff : (∃ d', d.set f v = .ok d') ↔ f.Takes v := by
  cases f with
  | method =>
    simp only [set, Field.Takes, ← Method.ofJson_ok]
    cases Method.ofJson v <;> simp
  | payload =>
    simp only [set, exists_map_ok, readOptionalText_ok, Field.Takes]
    constructor
    · rintro ⟨o, ⟨rfl, -⟩ | ⟨s, rfl, -⟩⟩
      · exact Or.inl rfl
      · exact Or.inr ⟨s, rfl⟩
    · rintro (rfl | ⟨s, rfl⟩)
      · exact ⟨none, Or.inl ⟨rfl, rfl⟩⟩
      · exact ⟨some s, Or.inr ⟨s, rfl, rfl⟩⟩
  | headers =>
    simp only [set, exists_map_ok, readTextMembers_ok, Field.Takes]
    refine exists_map_iff fun e => ⟨?_, ?_⟩
    · rintro ⟨s, hs⟩
      exact ⟨(e.1, s), Prod.ext rfl hs.symm⟩
    · rintro ⟨⟨k, s⟩, rfl⟩
      exact ⟨s, rfl⟩
  | retryCount =>
    simp only [set, exists_map_ok, readWord32_ok, Field.Takes]
    constructor
    · rintro ⟨n, rfl⟩
      exact ⟨_, rfl, by omega, by have := n.toNat_lt; simp; omega⟩
    · rintro ⟨n, rfl, h0, hn⟩
      obtain ⟨i, rfl⟩ := Int.eq_ofNat_of_zero_le h0
      have hi : i < UInt32.size := by
        simp only [UInt32.size]
        simp at hn
        omega
      exact ⟨UInt32.ofNat i, by rw [UInt32.toNat_ofNat_of_lt' hi]⟩
  | errorMessages =>
    simp only [set, exists_map_ok, readTexts_ok, Field.Takes]
    exact exists_map_iff fun e => by simp only [eq_comm]
  | _ =>
    simp only [set, exists_map_ok, readText_ok, readMembers_ok, readBoolean_ok, Field.Takes]

theorem setNamed_ok {e : String × Json} : d.setNamed e = .ok d' ↔
    ∃ f : Field, e.1 = f.name ∧ d.set f e.2 = .ok d' := by
  unfold setNamed
  split
  · next f hf =>
    rw [Field.ofName?_eq_some] at hf
    simp [hf, Field.name_inj]
  · next hf =>
    rw [Field.ofName?_eq_none] at hf
    simp only [reduceCtorEq, false_iff]
    rintro ⟨f, h, -⟩
    exact hf f h.symm

/-- All members can be set if each is one of a field, with a value that it takes. -/
theorem exists_foldlM_iff : (∃ d', m.foldlM setNamed d = .ok d') ↔
    ∀ e ∈ m, ∃ f : Field, e.1 = f.name ∧ f.Takes e.2 := by
  induction m generalizing d with
  | nil => simp [pure, Except.pure]
  | cons e m ih =>
    simp only [List.foldlM_cons, bind_ok, List.forall_mem_cons]
    constructor
    · rintro ⟨d', d₁, h₁, h⟩
      obtain ⟨f, hf, hs⟩ := setNamed_ok.1 h₁
      exact ⟨⟨f, hf, exists_set_iff.1 ⟨d₁, hs⟩⟩, ih.1 ⟨d', h⟩⟩
    · rintro ⟨⟨f, hf, ht⟩, hm⟩
      obtain ⟨d₁, hs⟩ := exists_set_iff.2 ht
      obtain ⟨d', h⟩ := ih.2 hm
      exact ⟨d', d₁, setNamed_ok.2 ⟨f, hf, hs⟩, h⟩

/-- Where each name is given once, the draft says of a field what is given for it, and of the others
what it said before. -/
theorem says_of_foldlM (hm : (m.map (·.1)).Nodup) (h : m.foldlM setNamed d = .ok d') (f : Field) :
    (∀ v, (f.name, v) ∈ m → d'.Says f v) ∧
      ((∀ v, (f.name, v) ∉ m) → ∀ w, d'.Says f w ↔ d.Says f w) := by
  have hset (d : Draft) (v : Json) (d' : Draft) (h : d.setNamed (f.name, v) = .ok d') :
      d'.Says f v := by
    obtain ⟨g, hg, hs⟩ := setNamed_ok.1 h
    cases Field.name_inj.1 hg
    exact (says_of_set hs).1
  have hskip (d : Draft) (e : String × Json) (d' : Draft) (he : e.1 ≠ f.name)
      (h : d.setNamed e = .ok d') : d'.Says f = d.Says f := by
    obtain ⟨g, hg, hs⟩ := setNamed_ok.1 h
    refine funext fun w => propext ((says_of_set hs).2 f ?_ w)
    rintro rfl
    exact he hg
  obtain ⟨hin, hout⟩ := Span.foldlM_keyed (·.Says f) (fun v p => p v) hset hskip hm h
  exact ⟨hin, fun hno w => iff_of_eq (congrFun (hout hno) w)⟩

/-- What a draft says of a field is what is given for it, or else what is said at the start. -/
theorem says_or (hm : (m.map (·.1)).Nodup) (h : Draft.ofFields m = .ok d) (f : Field) :
    (∃ v, (f.name, v) ∈ m ∧ d.Says f v) ∨
      (∀ v, (f.name, v) ∉ m) ∧ ∀ w, d.Says f w ↔ ({} : Draft).Says f w := by
  obtain ⟨hin, hout⟩ := says_of_foldlM hm h f
  by_cases hno : ∀ v, (f.name, v) ∉ m
  · exact Or.inr ⟨hno, hout hno⟩
  · simp only [not_forall, not_not] at hno
    obtain ⟨v, hv⟩ := hno
    exact Or.inl ⟨v, hv, hin v hv⟩

end Draft

/-! ## The outcome -/

section Outcome

variable {m : Members}

/-- Something is wrong with the fields themselves: one is unknown, there is no URL, or a value is
not of its kind. -/
def Unfit (m : Members) : Prop :=
  (∃ e ∈ m, ∀ f : Field, f.name ≠ e.1) ∨ (∀ v, (Field.url.name, v) ∉ m) ∨
    ∃ (f : Field) (v : Json), (f.name, v) ∈ m ∧ ¬ f.Takes v

/-- The method that the fields ask for. -/
def Asks (m : Members) (x : Method) : Prop :=
  (∃ v, (Field.method.name, v) ∈ m ∧ x.Means v) ∨
    (∀ v, (Field.method.name, v) ∉ m) ∧ x = .get

theorem exists_draft_iff : (∃ d, Draft.ofFields m = .ok d) ↔
    ∀ e ∈ m, ∃ f : Field, e.1 = f.name ∧ f.Takes e.2 :=
  Draft.exists_foldlM_iff

/-- Fields with which something is wrong are refused for it. -/
theorem ofFields_of_unfit (hm : (m.map (·.1)).Nodup) (h : Unfit m) :
    ∃ c, ofFields m = .error (.invalidFields c) := by
  unfold ofFields
  cases hd : Draft.ofFields m with
  | error c => exact ⟨c, rfl⟩
  | ok d =>
    have hall := exists_draft_iff.1 ⟨d, hd⟩
    rcases h with ⟨e, he, hno⟩ | hno | ⟨f, v, hv, hno⟩
    · obtain ⟨f, hf, -⟩ := hall e he
      exact absurd hf.symm (hno f)
    · have hurl := (Draft.says_of_foldlM hm hd .url).2 hno
      have : d.url = none := by
        cases hu : d.url with
        | none => rfl
        | some u =>
          obtain ⟨s, -, hs⟩ := (hurl (.string u)).1 ⟨u, rfl, hu⟩
          cases hs
      exact ⟨.missingUrl, by simp [Draft.finish, this]⟩
    · obtain ⟨g, hg, ht⟩ := hall _ hv
      cases Field.name_inj.1 hg
      exact absurd ht hno

/-- Of other fields, the draft has the URL, the payload and the method that are asked for. -/
theorem exists_draft (hm : (m.map (·.1)).Nodup) (h : ¬ Unfit m) : ∃ d u,
    Draft.ofFields m = .ok d ∧ d.url = some u ∧ (Field.url.name, .string u) ∈ m ∧
      (d.payload.isSome ↔ ∃ s, (Field.payload.name, .string s) ∈ m) ∧ Asks m d.method := by
  simp only [Unfit, not_or, not_exists, not_and, not_forall, not_not] at h
  obtain ⟨hknown, ⟨v, hv⟩, htakes⟩ := h
  obtain ⟨d, hd⟩ := exists_draft_iff.2 fun e he => by
    obtain ⟨f, hf⟩ := hknown e he
    exact ⟨f, hf.symm, htakes f e.2 (hf ▸ he)⟩
  obtain ⟨u, rfl, hu⟩ := (Draft.says_of_foldlM hm hd .url).1 v hv
  refine ⟨d, u, hd, hu, hv, ⟨fun hp => ?_, ?_⟩, ?_⟩
  · obtain ⟨s, hs⟩ := Option.isSome_iff_exists.1 hp
    rcases Draft.says_or hm hd .payload with ⟨v, hv, ⟨-, hn⟩ | ⟨t, rfl, -⟩⟩ | ⟨-, hdefault⟩
    · rw [hs] at hn
      cases hn
    · exact ⟨t, hv⟩
    · rcases (hdefault (.string s)).1 (Or.inr ⟨s, rfl, hs⟩) with ⟨hn, -⟩ | ⟨_, -, hn⟩ <;> cases hn
  · rintro ⟨s, hs⟩
    rcases (Draft.says_of_foldlM hm hd .payload).1 _ hs with ⟨hn, -⟩ | ⟨t, -, ht⟩
    · cases hn
    · simp [ht]
  · rcases Draft.says_or hm hd .method with ⟨v, hv, hx⟩ | ⟨hno, hdefault⟩
    · exact Or.inl ⟨v, hv, hx⟩
    · refine Or.inr ⟨hno, ?_⟩
      exact Method.Means.unique (Or.inl rfl) ((hdefault (.string d.method.name)).1 (Or.inl rfl))

theorem Asks.unique (hm : (m.map (·.1)).Nodup) {x y : Method} (h : Asks m x) (h' : Asks m y) :
    x = y := by
  rcases h with ⟨v, hv, hx⟩ | ⟨hno, rfl⟩
  · rcases h' with ⟨w, hw, hy⟩ | ⟨hno, rfl⟩
    · have := List.inj_on_of_nodup_map hm hv hw rfl
      cases this
      exact hx.unique hy
    · exact absurd hv (hno v)
  · rcases h' with ⟨w, hw, -⟩ | ⟨-, rfl⟩
    · exact absurd hw (hno w)
    · rfl

theorem allowsPayload_iff {x : Method} : x.allowsPayload = false ↔ x = .get ∨ x = .head := by
  cases x <;> simp [Method.allowsPayload]

/-- Fields make a request, unless something is wrong with them; or else their URL is none; or else
they have a payload that their method does not allow. -/
theorem ofFields_outcome (hm : (m.map (·.1)).Nodup) :
    ((∃ c, ofFields m = .error (.invalidFields c)) ↔ Unfit m) ∧
    (∀ u c, ofFields m = .error (.invalidUrl u c) ↔
      ¬ Unfit m ∧ (Field.url.name, .string u) ∈ m ∧ Url.parse u.toList = .error c) ∧
    (∀ x, ofFields m = .error (.payloadNotAllowed x) ↔
      ¬ Unfit m ∧ (∃ u p, (Field.url.name, .string u) ∈ m ∧ Url.parse u.toList = .ok p) ∧
        (∃ s, (Field.payload.name, .string s) ∈ m) ∧ Asks m x ∧ (x = .get ∨ x = .head)) ∧
    ((∃ r, ofFields m = .ok r) ↔
      ¬ Unfit m ∧ (∃ u p, (Field.url.name, .string u) ∈ m ∧ Url.parse u.toList = .ok p) ∧
        ¬ ((∃ s, (Field.payload.name, .string s) ∈ m) ∧
          ∃ x, Asks m x ∧ (x = .get ∨ x = .head))) := by
  by_cases h : Unfit m
  · obtain ⟨c, hc⟩ := ofFields_of_unfit hm h
    simp [hc, h]
  obtain ⟨d, u, hd, hu, hmem, hpayload, hasks⟩ := exists_draft hm h
  have hurl {w : String} : (Field.url.name, .string w) ∈ m ↔ u = w := by
    constructor
    · intro hw
      exact Json.string.inj (Prod.mk.inj (List.inj_on_of_nodup_map hm hmem hw rfl)).2
    · rintro rfl
      exact hmem
  have hfault {w : String} {c : Url.Fault} : (u = w ∧ Url.parse w.toList = .error c) ↔
      u = w ∧ Url.parse u.toList = .error c :=
    and_congr_right fun hw => by rw [hw]
  have hread : (∃ w p, u = w ∧ Url.parse w.toList = .ok p) ↔ ∃ p, Url.parse u.toList = .ok p := by
    simp
  have hmethod {x : Method} : Asks m x ↔ d.method = x :=
    ⟨fun hx => hasks.unique hm hx, fun hx => hx ▸ hasks⟩
  have hrefused {x : Method} : (d.method = x ∧ x.allowsPayload = false) ↔
      d.method = x ∧ d.method.allowsPayload = false :=
    and_congr_right fun hx => by rw [hx]
  simp only [ofFields, hd, Draft.finish, hu, hurl, hfault, hread, hmethod, ← hpayload, h,
    ← allowsPayload_iff, hrefused]
  cases Url.parse u.toList with
  | error c => simp
  | ok p =>
    cases d.payload.isSome with
    | false => simp
    | true => cases d.method.allowsPayload <;> simp

/-- An unknown name counts before a URL that is none and a payload that is not allowed. -/
theorem ofFields_outcome_of_unknown : ∃ c, ofFields [("payload", .string "x"),
    ("url", .string "/a"), ("zap", .null)] = .error (.invalidFields c) := by
  refine (ofFields_outcome (by decide)).1.2 (Or.inl ⟨("zap", .null), by simp, fun f => ?_⟩)
  cases f <;> decide

end Outcome

end Request
end UrlMask
