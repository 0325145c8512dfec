import UrlMask.Proofs.Json.Reading
import UrlMask.Proofs.Request.Fields

/-!
# What is written of a request

Of the values in a request only the data of the user is free. It comes from the fields that the
request was made of, and so do the headers.

* `userData_or`, `headers_or`: they are given, or there are none.
* `all_fields`: what holds of all values of the fields holds of the values of the request.
* `all_fields_exact`, `all_fields_keysSorted`: so it is read back as it is if they are.
* `height_toJson`: a request is nested by its data.
-/
namespace UrlMask.Request

open Json (All)

variable {m : Members} {r : Request}

/-- A request is made of a draft whose URL can be read and whose method allows its payload. -/
theorem finish_ok {d : Draft} : d.finish = .ok r ↔ ∃ url u, d.url = some url ∧
    Url.parse url.toList = .ok u ∧ (d.payload.isSome → d.method.allowsPayload = true) ∧
    r = ⟨url, d.key u, d.method, d.payload, d.headers, d.userData, d.keepUrlFragment, d.retryCount,
      d.noRetry, d.errorMessages⟩ := by
  unfold Draft.finish
  cases d.url with
  | none => simp
  | some url =>
    dsimp only
    cases hu : Url.parse url.toList with
    | error f => simp [hu]
    | ok u =>
      dsimp only
      split
      · next h =>
        simp only [reduceCtorEq, false_iff]
        rintro ⟨_, _, -, -, hallowed, -⟩
        have := hallowed h.1
        simp [this] at h
      · next h =>
        simp only [Bool.not_eq_true', not_and, Bool.not_eq_false] at h
        simp only [Except.ok.injEq, Option.some.injEq]
        constructor
        · rintro rfl
          exact ⟨url, u, rfl, hu, h, rfl⟩
        · rintro ⟨_, u', rfl, hu', -, rfl⟩
          rw [hu] at hu'
          cases hu'
          rfl

theorem ofFields_ok : ofFields m = .ok r ↔
    ∃ d, Draft.ofFields m = .ok d ∧ d.finish = .ok r := by
  unfold ofFields
  cases Draft.ofFields m <;> simp

/-- The data is that of the fields, or there is none. -/
theorem userData_or (hm : (m.map (·.1)).Nodup) (h : ofFields m = .ok r) :
    (Field.userData.name, .object r.userData) ∈ m ∨ r.userData = [] := by
  obtain ⟨d, hd, hr⟩ := ofFields_ok.1 h
  obtain ⟨url, u, -, -, -, rfl⟩ := finish_ok.1 hr
  rcases Draft.says_or hm hd .userData with ⟨v, hv, rfl⟩ | ⟨-, hdefault⟩
  · exact Or.inl hv
  · exact Or.inr (Json.object.inj ((hdefault (.object [])).2 rfl)).symm

/-- So are the headers. -/
theorem headers_or (hm : (m.map (·.1)).Nodup) (h : ofFields m = .ok r) :
    (Field.headers.name, .object (r.headers.map fun e => (e.1, .string e.2))) ∈ m ∨
      r.headers = [] := by
  obtain ⟨d, hd, hr⟩ := ofFields_ok.1 h
  obtain ⟨url, u, -, -, -, rfl⟩ := finish_ok.1 hr
  rcases Draft.says_or hm hd .headers with ⟨v, hv, rfl⟩ | ⟨-, hdefault⟩
  · exact Or.inl hv
  · exact Or.inr (List.map_eq_nil_iff.1 (Json.object.inj ((hdefault (.object [])).2 rfl)).symm)

section All

variable {q : Json → Prop}

/-- What holds of all values of the fields, and of those that are not free, holds of the values of
the request. -/
theorem all_fields (hm : (m.map (·.1)).Nodup) (h : ofFields m = .ok r)
    (hq : ∀ e ∈ m, e.2.All q) (hstring : ∀ s, q (.string s)) (hbool : ∀ b, q (.bool b))
    (hcount : ∀ n : UInt32, q (.integer n.toNat)) (htexts : ∀ l, q (.array l))
    (hempty : q (.object [])) : ∀ e ∈ r.fields, e.2.All q := by
  have hdata : (Json.object r.userData).All q := by
    rcases userData_or hm h with hd | hd
    · exact hq _ hd
    · rw [hd]
      exact ⟨hempty, trivial⟩
  have hheaders : (Json.object (r.headers.map fun e => (e.1, .string e.2))).All q := by
    rcases headers_or hm h with hd | hd
    · exact hq _ hd
    · rw [hd]
      exact ⟨hempty, trivial⟩
  have hmessages : (Json.array (r.errorMessages.map .string)).All q := by
    refine ⟨htexts _, Json.all_items_iff.2 fun j hj => ?_⟩
    obtain ⟨s, -, rfl⟩ := List.mem_map.1 hj
    exact hstring s
  simp only [fields, List.forall_mem_append, List.forall_mem_cons, List.not_mem_nil,
    false_implies, implies_true, and_true]
  refine ⟨⟨⟨hstring _, hstring _, hstring _⟩, ?_⟩, hheaders, hdata, hbool _, hcount _, hbool _,
    hmessages⟩
  cases r.payload with
  | none => exact List.forall_mem_nil _
  | some p => exact List.forall_mem_singleton.2 (hstring p)

end All

/-- No number that is written of a request is beyond a reader if none in its fields is. -/
theorem all_fields_exact (hm : (m.map (·.1)).Nodup) (h : ofFields m = .ok r)
    (hq : ∀ e ∈ m, e.2.All Json.Exact) : ∀ e ∈ r.fields, e.2.All Json.Exact := by
  refine all_fields hm h hq (fun _ => trivial) (fun _ => trivial) (fun n => ?_)
    (fun _ => trivial) trivial
  have hpow : Nat.pow 2 64 = 18446744073709551616 := rfl
  have := n.toNat_lt
  constructor <;> omega

/-- Its values are in order if those of its fields are. -/
theorem all_fields_keysSorted (hm : (m.map (·.1)).Nodup) (h : ofFields m = .ok r)
    (hq : ∀ e ∈ m, e.2.All Json.KeysSorted) : ∀ e ∈ r.fields, e.2.All Json.KeysSorted :=
  all_fields hm h hq (fun _ => trivial) (fun _ => trivial) (fun _ => trivial) (fun _ => trivial)
    List.Pairwise.nil

/-! ## How deep a request is nested -/

theorem height_texts (l : List String) : Json.height.items (l.map .string) = 0 := by
  induction l with
  | nil => rfl
  | cons s l ih => simp [Json.height.items, Json.height, ih]

theorem height_textMembers (l : List (String × String)) :
    Json.height.members (l.map fun e => (e.1, .string e.2)) = 0 := by
  induction l with
  | nil => rfl
  | cons s l ih => simp [Json.height.members, Json.height, ih]

theorem height_members_append (l l' : List (String × Json)) : Json.height.members (l ++ l') =
    max (Json.height.members l) (Json.height.members l') := by
  induction l with
  | nil => simp [Json.height.members]
  | cons e l ih => simp [Json.height.members, ih, Nat.max_assoc]

/-- A request is nested one deeper than its data. -/
theorem height_toJson (r : Request) :
    r.toJson.height = (Json.object r.userData).height + 1 := by
  cases hp : r.payload <;>
    simp only [toJson, fields, hp, height_members_append, Json.height, Json.height.members,
      height_texts, height_textMembers] <;>
    omega

end UrlMask.Request
