import UrlMask.Proofs.Json.Order
import UrlMask.Proofs.Mask.Meaning
import UrlMask.Proofs.Request.Restored

/-!
# What a template gives to a request

The URL is put into the template, the fields are read, checked and written again. Of what the
template says nothing is lost on this way, and nothing comes in but the URL, its key and what every
request starts with.

* `Request.value_eq_shown`: what a draft says of a field is written for it.
* `Request.Carries`: what is written of a request, field by field.
* `Request.carries_of_ofFields`: this is what is written where the URL is put into a template.
* `Mask.requestFor_carries`: so it is for every mask, and what the template has under the URL makes
  no difference.
-/
namespace UrlMask

namespace Request

variable {f : Field} {v : Json} {r : Request} {d : Draft} {t m : Members} {url : String}

/-! ## What is written -/

/-- What is written for a value that is given: nothing for a payload that is null, its name for a
method given as an object, and otherwise the value. -/
def shown : Field → Json → Option Json
  | .payload, .null => none
  | .method, .object [(name, .null)] => some (.string name)
  | _, v => some v

/-- What is written for a field that is not given. -/
def unset : Field → Option Json
  | .url | .uniqueKey | .payload => none
  | .method => some (.string "GET")
  | .headers | .userData => some (.object [])
  | .keepUrlFragment | .noRetry => some (.bool false)
  | .retryCount => some (.integer 0)
  | .errorMessages => some (.array [])

/-- What is written of a request for a URL that was put into a template. -/
structure Carries (t : Members) (url : String) (j : Json) : Prop where
  /-- The template has no other names than those of fields, -/
  names_given : ∀ e ∈ t, ∃ f : Field, f.name = e.1
  /-- and no others are written. -/
  names_written : ∀ k v, j.get? k = some v → ∃ f : Field, f.name = k
  url_written : j.get? Field.url.name = some (.string url)
  given : ∀ f v, f ≠ .url → (f.name, v) ∈ t → ¬ (f = .uniqueKey ∧ v = .string "") →
    j.get? f.name = shown f v
  missing : ∀ f, f ≠ .url → f ≠ .uniqueKey → (∀ v, (f.name, v) ∉ t) → j.get? f.name = unset f
  /-- Where no key is given, or an empty one, it is that of the URL, whose fragment counts if the
  request says so. -/
  key_found : (∀ v, (Field.uniqueKey.name, v) ∈ t → v = .string "") → ∃ u keep,
    Url.parse url.toList = .ok u ∧ j.get? Field.keepUrlFragment.name = some (.bool keep) ∧
    j.get? Field.uniqueKey.name = some (.string (String.ofList (u.uniqueKey keep)))

/-- The value under a name is what is written for its field. -/
theorem get?_toJson {k : String} :
    r.toJson.get? k = some v ↔ ∃ f : Field, k = f.name ∧ r.value f = some v := by
  rw [toJson, Json.get?, Members.get?_eq_some_iff r.nodup_fields, mem_fields]

theorem get?_name : r.toJson.get? f.name = r.value f := by
  refine Option.ext fun v => ?_
  rw [get?_toJson]
  simp [Field.name_inj]

/-! ## From drafts to requests -/

/-- What a draft says of a field is written for it. -/
theorem value_eq_shown (h : (Draft.ofRequest r).Says f v) : r.value f = shown f v := by
  cases f with
  | url =>
    obtain ⟨s, rfl, hs⟩ := h
    exact congrArg (fun s => some (Json.string s)) (Option.some.inj hs)
  | method =>
    rcases h with rfl | rfl
    · rfl
    · rfl
  | payload =>
    rcases h with ⟨rfl, hn⟩ | ⟨s, rfl, hs⟩
    · exact congrArg (Option.map Json.string) hn
    · exact congrArg (Option.map Json.string) hs
  | _ =>
    subst h
    rfl

/-- A draft says of the fields that have not been given what every request starts with. -/
theorem says_unset (hf : f ≠ .url) : ∃ v, ({} : Draft).Says f v ∧ (f ≠ .uniqueKey →
    shown f v = unset f) := by
  cases f with
  | url => exact absurd rfl hf
  | uniqueKey => exact ⟨.string "", rfl, fun h => absurd rfl h⟩
  | method => exact ⟨.string "GET", Or.inl rfl, fun _ => rfl⟩
  | payload => exact ⟨.null, Or.inl ⟨rfl, rfl⟩, fun _ => rfl⟩
  | headers | userData => exact ⟨.object [], rfl, fun _ => rfl⟩
  | keepUrlFragment | noRetry => exact ⟨.bool false, rfl, fun _ => rfl⟩
  | retryCount => exact ⟨.integer 0, rfl, fun _ => rfl⟩
  | errorMessages => exact ⟨.array [], rfl, fun _ => rfl⟩

/-- But for the key, the request has what the draft says. -/
theorem says_ofRequest (h : d.finish = .ok r) (hf : f ≠ .uniqueKey) :
    (Draft.ofRequest r).Says f v ↔ d.Says f v := by
  obtain ⟨url, u, hurl, -, -, rfl⟩ := finish_ok.1 h
  cases f with
  | uniqueKey => exact absurd rfl hf
  | url => simp [Draft.Says, Draft.ofRequest, hurl]
  | _ => exact Iff.rfl

/-! ## Templates -/

/-- The members but for the URL are those of the template. -/
theorem mem_insert_url (hf : f ≠ .url) :
    (f.name, v) ∈ Members.insert Field.url.name (.string url) t ↔ (f.name, v) ∈ t := by
  have hne : f.name ≠ Field.url.name := fun h => hf (Field.name_inj.1 h)
  constructor
  · intro h
    rcases Members.mem_insert h with he | h
    · exact absurd (congrArg Prod.fst he) hne
    · exact h
  · intro h
    exact Members.mem_insert_of_ne h hne

section Draft

variable (ht : Members.Sorted t)
  (hd : Draft.ofFields (Members.insert Field.url.name (.string url) t) = .ok d)

include hd

/-- A template with a name that is none of a field makes no draft. -/
theorem names_of_draft {e : String × Json} (he : e ∈ t) : ∃ f : Field, f.name = e.1 := by
  by_cases hk : e.1 = Field.url.name
  · exact ⟨.url, hk.symm⟩
  · obtain ⟨f, hf, -⟩ := exists_draft_iff.1 ⟨d, hd⟩ e (Members.mem_insert_of_ne he hk)
    exact ⟨f, hf.symm⟩

include ht

theorem url_of_draft : d.url = some url := by
  have hsaid := (Draft.says_of_foldlM (Members.sorted_insert ht).nodup hd .url).1
  obtain ⟨s, hs, hurl⟩ := hsaid _ (Members.mem_insert_self ..)
  rw [hurl, Json.string.inj hs]

/-- A draft says of a field what the template gives for it, -/
theorem says_given (hf : f ≠ .url) (hv : (f.name, v) ∈ t) : d.Says f v :=
  (Draft.says_of_foldlM (Members.sorted_insert ht).nodup hd f).1 v ((mem_insert_url hf).2 hv)

/-- and of the others what is said at the start. -/
theorem says_missing (hf : f ≠ .url) (hno : ∀ v, (f.name, v) ∉ t) :
    d.Says f v ↔ ({} : Draft).Says f v :=
  (Draft.says_of_foldlM (Members.sorted_insert ht).nodup hd f).2
    (fun w hw => hno w ((mem_insert_url hf).1 hw)) v

theorem uniqueKey_of_draft (hempty : ∀ v, (Field.uniqueKey.name, v) ∈ t → v = .string "") :
    d.uniqueKey = "" := by
  have hsaid : d.Says .uniqueKey (.string "") := by
    rcases Draft.says_or (Members.sorted_insert ht).nodup hd .uniqueKey with ⟨v, hv, h⟩ | ⟨-, h⟩
    · rwa [hempty v ((mem_insert_url (by decide)).1 hv)] at h
    · exact (h _).2 rfl
  exact (Json.string.inj hsaid).symm

end Draft

/-- A request whose URL was put into a template carries what the template says. -/
theorem carries_of_ofFields (ht : Members.Sorted t)
    (h : ofFields (Members.insert Field.url.name (.string url) t) = .ok r) :
    Carries t url r.toJson := by
  obtain ⟨d, hd, hfinish⟩ := ofFields_ok.1 h
  obtain ⟨url', u, hurl, hparse, -, hr⟩ := finish_ok.1 hfinish
  obtain rfl : url' = url := Option.some.inj (hurl.symm.trans (url_of_draft ht hd))
  have hkey : r.toJson.get? Field.uniqueKey.name = some (.string (d.key u)) := by
    rw [get?_name, hr]
    rfl
  constructor
  case names_given => exact fun e he => names_of_draft hd he
  case names_written =>
    intro k v hv
    obtain ⟨f, hk, -⟩ := get?_toJson.1 hv
    exact ⟨f, hk.symm⟩
  case url_written =>
    rw [get?_name, hr]
    rfl
  case given =>
    intro f v hf hv hempty
    have hsaid := says_given ht hd hf hv
    by_cases hf' : f = .uniqueKey
    · subst hf'
      have hne : d.uniqueKey ≠ "" := fun he => hempty ⟨rfl, by rw [hsaid, he]⟩
      rw [hkey, Draft.key, if_neg (by simpa using hne), hsaid]
      rfl
    · rw [get?_name]
      exact value_eq_shown ((says_ofRequest hfinish hf').2 hsaid)
  case missing =>
    intro f hf hf' hno
    obtain ⟨v, hv, hshown⟩ := says_unset hf
    have hsaid := (says_missing ht hd hf hno).2 hv
    rw [get?_name, ← hshown hf']
    exact value_eq_shown ((says_ofRequest hfinish hf').2 hsaid)
  case key_found =>
    intro hempty
    have hkeep : r.toJson.get? Field.keepUrlFragment.name = some (.bool d.keepUrlFragment) := by
      rw [get?_name, hr]
      rfl
    refine ⟨u, d.keepUrlFragment, hparse, hkeep, ?_⟩
    rw [hkey, Draft.key, uniqueKey_of_draft ht hd hempty]
    rfl

end Request

namespace Mask

open Request (Field Carries)

/-- The request of a mask for a URL carries what the template says, and what the template has under
the URL makes no difference, whatever the masks are. -/
theorem requestFor_carries {text : List Char} {t : Template} {limit : Nat} {m : Mask}
    (ht : Members.Sorted t) (hm : ofText text t limit = .ok m) (url : String) :
    (∀ r, m.requestFor url = .ok r → Carries t url r.toJson) ∧
    ∀ text' t' limit' m', Members.Sorted t' → ofText text' t' limit' = .ok m' →
      Members.erase t' Field.url.name = Members.erase t Field.url.name →
      m'.requestFor url = m.requestFor url := by
  have hfields {text : List Char} {t : Template} {limit : Nat} {m : Mask}
      (hm : ofText text t limit = .ok m) :
      m.requestFor url = Request.ofFields (Members.insert Field.url.name (.string url) t) := by
    rw [requestFor, fieldsFor, template_of_ofText hm]
  rw [hfields hm]
  refine ⟨fun r hr => Request.carries_of_ofFields ht hr, fun text' t' limit' m' ht' hm' he => ?_⟩
  rw [hfields hm', ← Members.insert_erase ht', he, Members.insert_erase ht]

/-- A template with a method in another form, a payload that is null, an empty key, nested data, and
a number in the place of the URL. -/
def formTemplate : Template :=
  [("headers", .object [("Accept", .string "*/*")]), ("keepUrlFragment", .bool true),
   ("method", .object [("POST", .null)]), ("payload", .null), ("uniqueKey", .string ""),
   ("url", .integer 1), ("userData", .object [("k", .array [.object []])])]

/-- The template gives what it has, and would give the same without the number. -/
theorem requestFor_carries_of_form : ∃ m m' r,
    ofText "http://a/[.*]".toList formTemplate defaultLimit = .ok m ∧
    ofText "http:[.*]".toList (Members.erase formTemplate "url") defaultLimit = .ok m' ∧
    m.requestFor "http://a/b/#c" = .ok r ∧ m'.requestFor "http://a/b/#c" = .ok r ∧
    Carries formTemplate "http://a/b/#c" r.toJson ∧
    r.toJson.get? "method" = some (.string "POST") ∧ r.toJson.get? "payload" = none ∧
    r.toJson.get? "retryCount" = some (.integer 0) := by
  have hsorted : Members.Sorted formTemplate := by
    simp [formTemplate, Members.Sorted]
    decide
  have hsorted' : Members.Sorted (Members.erase formTemplate "url") := hsorted.filter _
  have hm : (ofText "http://a/[.*]".toList formTemplate defaultLimit).toOption.any
      (fun m => (m.requestFor "http://a/b/#c").toOption.isSome) = true := by
    decide +kernel
  have hm' : (ofText "http:[.*]".toList (Members.erase formTemplate "url")
      defaultLimit).toOption.any (fun _ => true) = true := by
    decide +kernel
  obtain ⟨m, hm, hmade⟩ := exists_ok_of_any hm
  obtain ⟨m', hm', -⟩ := exists_ok_of_any hm'
  obtain ⟨hcarries, hsame⟩ := requestFor_carries hsorted hm "http://a/b/#c"
  cases hr : m.requestFor "http://a/b/#c" with
  | error f =>
    rw [hr] at hmade
    cases hmade
  | ok r =>
    have hc := hcarries r hr
    have hr' := hsame _ _ _ m' hsorted' hm' (by simp [Members.erase, Field.name])
    refine ⟨m, m', r, hm, hm', hr, hr'.trans hr, hc, ?_, ?_, ?_⟩
    · exact hc.given .method (.object [("POST", .null)]) (by decide)
        (by simp [formTemplate, Field.name]) (by simp)
    · exact hc.given .payload .null (by decide) (by simp [formTemplate, Field.name]) (by simp)
    · exact hc.missing .retryCount (by decide) (by decide) (by simp [formTemplate, Field.name])

end Mask

end UrlMask
