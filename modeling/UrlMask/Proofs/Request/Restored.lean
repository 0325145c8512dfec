import UrlMask.Proofs.Request.Written

/-!
# Requests are made again from what is written

The object of a request names its fields, and its fields make the request. Nothing is lost on the
way and nothing is found out anew: the URL is read again, the payload is allowed again, and the key
is there, so that it is not computed a second time.

* `value`: what is written for a field.
* `draft_of_members`: the fields that are written are read as what they were written for.
* `Valid`: what is true of every request that fields make.
* `ofFields_members`: such a request is made again, and no other is.
* `ofFields_inOrder`: from fields to a request, to its object, to its fields and to the request.
-/
namespace UrlMask

namespace Request

variable {m : Members} {r : Request} {d : Draft} {f : Field} {v : Json}

/-! ## What is written -/

/-- What is written for a field, if anything is. -/
def value (r : Request) : Field → Option Json
  | .url => some (.string r.url)
  | .uniqueKey => some (.string r.uniqueKey)
  | .method => some (.string r.method.name)
  | .payload => r.payload.map .string
  | .headers => some (.object (r.headers.map fun e => (e.1, .string e.2)))
  | .userData => some (.object r.userData)
  | .keepUrlFragment => some (.bool r.keepUrlFragment)
  | .retryCount => some (.integer r.retryCount.toNat)
  | .noRetry => some (.bool r.noRetry)
  | .errorMessages => some (.array (r.errorMessages.map .string))

/-- The fields that are written, in the order of writing. -/
theorem fields_eq (r : Request) :
    r.fields = Field.all.filterMap fun f => (r.value f).map (f.name, ·) := by
  cases hp : r.payload <;> simp [fields, Field.all, value, hp]

theorem mem_fields {e : String × Json} :
    e ∈ r.fields ↔ ∃ f : Field, e.1 = f.name ∧ r.value f = some e.2 := by
  obtain ⟨k, v⟩ := e
  have hall (f : Field) : f ∈ Field.all := by cases f <;> decide
  simp [fields_eq, hall, eq_comm, and_comm]

/-- Each field is written once. -/
theorem nodup_fields (r : Request) : (r.fields.map (·.1)).Nodup := by
  rw [fields_eq, List.map_filterMap]
  refine List.Nodup.filterMap (fun f g k hf hg => ?_) (by decide)
  simp only [Option.map_map, Option.mem_def, Option.map_eq_some_iff] at hf hg
  obtain ⟨_, _, rfl⟩ := hf
  obtain ⟨_, _, hname⟩ := hg
  exact (Field.name_inj.1 hname).symm

/-- The fields as the members of an object. -/
def members (r : Request) : Members := Members.ofList r.fields

theorem mem_members : (f.name, v) ∈ r.members ↔ r.value f = some v := by
  rw [members, Members.mem_ofList_iff r.nodup_fields, mem_fields]
  simp [Field.name_inj]

/-! ## What is read of it -/

/-- A field takes what is written for it. -/
theorem takes_value (h : r.value f = some v) : f.Takes v := by
  cases f with
  | payload =>
    obtain ⟨s, -, rfl⟩ := Option.map_eq_some_iff.1 h
    exact Or.inr ⟨s, rfl⟩
  | method =>
    cases h
    exact ⟨r.method, Or.inl rfl⟩
  | headers =>
    cases h
    refine ⟨_, rfl, fun e he => ?_⟩
    obtain ⟨e, -, rfl⟩ := List.mem_map.1 he
    exact ⟨e.2, rfl⟩
  | retryCount =>
    cases h
    have := r.retryCount.toNat_lt
    exact ⟨_, rfl, by omega, by simp; omega⟩
  | errorMessages =>
    cases h
    exact ⟨_, rfl, by simp⟩
  | _ =>
    cases h
    exact ⟨_, rfl⟩

/-- What is known of a request once its fields have been read. -/
def Draft.ofRequest (r : Request) : Draft where
  url := some r.url
  uniqueKey := r.uniqueKey
  method := r.method
  payload := r.payload
  headers := r.headers
  userData := r.userData
  keepUrlFragment := r.keepUrlFragment
  retryCount := r.retryCount
  noRetry := r.noRetry
  errorMessages := r.errorMessages

/-- A draft that says of each field what is written for it, and of a payload that is not written
that there is none, is the draft of the request. -/
theorem eq_ofRequest (h : ∀ f v, r.value f = some v → d.Says f v)
    (hnone : r.payload = none → d.payload = none) : d = .ofRequest r := by
  have hurl : d.url = some r.url := by
    obtain ⟨s, hs, hurl⟩ := h .url _ rfl
    rw [hurl, Json.string.inj hs]
  have hkey : d.uniqueKey = r.uniqueKey := (Json.string.inj (h .uniqueKey _ rfl)).symm
  have hmethod : d.method = r.method := Method.Means.unique (h .method _ rfl) (Or.inl rfl)
  have hpayload : d.payload = r.payload := by
    cases hp : r.payload with
    | none => exact hnone hp
    | some s =>
      rcases h .payload (.string s) (by simp [value, hp]) with ⟨hnull, -⟩ | ⟨t, ht, hd⟩
      · cases hnull
      · rw [hd, Json.string.inj ht]
  have hheaders : d.headers = r.headers := by
    have hpair : Function.Injective fun e : String × String => (e.1, Json.string e.2) := by
      rintro ⟨k, s⟩ ⟨k', s'⟩ he
      cases he
      rfl
    exact (List.map_injective_iff.2 hpair (Json.object.inj (h .headers _ rfl))).symm
  have hdata : d.userData = r.userData := (Json.object.inj (h .userData _ rfl)).symm
  have hkeep : d.keepUrlFragment = r.keepUrlFragment :=
    (Json.bool.inj (h .keepUrlFragment _ rfl)).symm
  have hcount : d.retryCount = r.retryCount := by
    have := Json.integer.inj (h .retryCount _ rfl)
    exact UInt32.toNat_inj.1 (by omega)
  have hretry : d.noRetry = r.noRetry := (Json.bool.inj (h .noRetry _ rfl)).symm
  have hmessages : d.errorMessages = r.errorMessages := by
    have htext : Function.Injective Json.string := fun s s' he => Json.string.inj he
    exact (List.map_injective_iff.2 htext (Json.array.inj (h .errorMessages _ rfl))).symm
  cases d
  simp only at hurl hkey hmethod hpayload hheaders hdata hkeep hcount hretry hmessages
  simp only [Draft.ofRequest, hurl, hkey, hmethod, hpayload, hheaders, hdata, hkeep, hcount, hretry,
    hmessages]

/-- The fields that are written are read as what they were written for. -/
theorem draft_of_members (r : Request) : Draft.ofFields r.members = .ok (.ofRequest r) := by
  have htakes : ∀ e ∈ r.members, ∃ f : Field, e.1 = f.name ∧ f.Takes e.2 := by
    intro e he
    obtain ⟨f, hf, hv⟩ := mem_fields.1 (Members.mem_ofList he)
    exact ⟨f, hf, takes_value hv⟩
  obtain ⟨d, hd⟩ := exists_draft_iff.2 htakes
  have hsaid := Draft.says_of_foldlM (Members.sorted_ofList r.fields).nodup hd
  have hwritten (f : Field) (v : Json) (hv : r.value f = some v) : d.Says f v :=
    (hsaid f).1 v (mem_members.2 hv)
  have hnone (hp : r.payload = none) : d.payload = none := by
    have hno (v : Json) : (Field.payload.name, v) ∉ r.members := fun hv => by
      have := mem_members.1 hv
      simp [value, hp] at this
    rcases ((hsaid .payload).2 hno .null).2 (Or.inl ⟨rfl, rfl⟩) with ⟨-, hd⟩ | ⟨s, hs, -⟩
    · exact hd
    · cases hs
  rw [hd, eq_ofRequest hwritten hnone]

/-! ## Requests that fields make -/

/-- What is true of every request that fields make. -/
structure Valid (r : Request) : Prop where
  url_parses : ∃ u, Url.parse r.url.toList = .ok u
  key_ne_empty : r.uniqueKey ≠ ""
  /-- There is a payload only where the method allows one. -/
  payload_allowed : ∀ s, r.payload = some s → r.method.allowsPayload = true

/-- A key is never empty. -/
theorem key_ne_empty (d : Draft) (u : Url) : d.key u ≠ "" := by
  unfold Draft.key
  split
  · intro h
    have htext : u.uniqueKey d.keepUrlFragment = [] := by simpa using congrArg String.toList h
    simp [Url.uniqueKey, Url.text] at htext
  · next h => simpa using h

theorem valid_of_finish (h : d.finish = .ok r) : r.Valid := by
  obtain ⟨url, u, -, hu, hp, rfl⟩ := finish_ok.1 h
  exact ⟨⟨u, hu⟩, key_ne_empty d u, fun s hs => hp (by simp [show d.payload = some s from hs])⟩

theorem finish_ofRequest (h : r.Valid) : (Draft.ofRequest r).finish = .ok r := by
  obtain ⟨u, hu⟩ := h.url_parses
  have hkey : (Draft.ofRequest r).key u = r.uniqueKey := by
    have := h.key_ne_empty
    simp [Draft.key, Draft.ofRequest, this]
  refine finish_ok.2 ⟨r.url, u, rfl, hu, fun hp => ?_, by rw [hkey]; rfl⟩
  obtain ⟨s, hs⟩ := Option.isSome_iff_exists.1 hp
  exact h.payload_allowed s hs

/-- A valid request is made again from what is written of it, and no other is. -/
theorem ofFields_members : ofFields r.members = .ok r ↔ r.Valid := by
  rw [ofFields_ok]
  constructor
  · rintro ⟨d, -, h⟩
    exact valid_of_finish h
  · intro h
    exact ⟨_, draft_of_members r, finish_ofRequest h⟩

/-- Where the values of the fields are in order, the object that is written has its members put in
order, and nothing else. -/
theorem inOrder_toJson (hm : (Json.object m).All Json.KeysSorted) (h : ofFields m = .ok r) :
    r.toJson.inOrder = .object r.members := by
  have hall := all_fields_keysSorted (Members.Sorted.nodup hm.1) h (Json.all_members_iff.1 hm.2)
  rw [toJson, Json.inOrder, Json.inOrder_members r.fields (Json.all_members_iff.2 hall)]
  rfl

/-- A request that fields make is valid, and it is made again from the object that is written of
it. -/
theorem ofFields_inOrder (hm : (Json.object m).All Json.KeysSorted) (h : ofFields m = .ok r) :
    (∃ m', r.toJson.inOrder = .object m' ∧ ofFields m' = .ok r) ∧ r.Valid := by
  obtain ⟨d, -, hd⟩ := ofFields_ok.1 h
  have hvalid := valid_of_finish hd
  exact ⟨⟨r.members, inOrder_toJson hm h, ofFields_members.2 hvalid⟩, hvalid⟩

/-- Fields of which one is given in another form than it is written, one is left out, and one holds
nested data. -/
def formFields : Members :=
  [("headers", .object [("Accept", .string "*/*"), ("X", .string "\n")]),
   ("method", .object [("POST", .null)]), ("payload", .string ""),
   ("url", .string "http://a/b/#c"), ("userData", .object [("k", .array [.object []])])]

theorem ofFields_inOrder_of_form : ∃ r, ofFields formFields = .ok r ∧
    r.method = .post ∧ r.uniqueKey = "http://a/b" ∧
    ∃ m', r.toJson.inOrder = .object m' ∧ ofFields m' = .ok r := by
  have hsorted : (Json.object formFields).All Json.KeysSorted := by
    simp [formFields, Json.All, Json.All.members, Json.All.items, Json.KeysSorted, Members.Sorted]
    decide
  have hmade : (ofFields formFields).toOption.any (fun r =>
      decide (r.method = .post ∧ r.uniqueKey = "http://a/b")) = true := by
    decide +kernel
  cases h : ofFields formFields with
  | error f =>
    rw [h] at hmade
    cases hmade
  | ok r =>
    rw [h] at hmade
    obtain ⟨hmethod, hkey⟩ := of_decide_eq_true hmade
    exact ⟨r, rfl, hmethod, hkey, (ofFields_inOrder hsorted h).1⟩

end Request
end UrlMask
