import UrlMask.Proofs.Command.Check
import UrlMask.Proofs.Command.Output
import UrlMask.Proofs.Request.Restored
import UrlMask.Proofs.Text.Blank

/-!
# The commands agree on a URL

A check, a request and a filter each ask a mask about a URL. To one mask and one URL there is one
answer, and each command shows it in its own way.

* `Answers`: what a mask says of a URL.
* `seen_check_one`, `seen_request_one`, `seen_filter_one`: how a command shows the answer.
* `Agree`: what the three have in common where the mask can be built.
* `commands_agree`: they agree, or all fail because the mask is malformed.
-/
namespace UrlMask.Command

open Report

variable {c : Config} {mask url : String} {bytes : List UInt8} {r : Request} {a : Answer}

/-! ## The answer -/

/-- What a mask says of a URL. -/
inductive Answer where
  | notBuilt (f : Mask.Fault)
  | unmatched
  /-- The URL matches, but no request can be made for it. -/
  | refused (f : Request.Fault)
  | made (r : Request)

/-- What the mask of a text, with no template, says of a URL. -/
inductive Answers (c : Config) (mask url : String) : Answer → Prop
  | notBuilt {f : Mask.Fault} (hm : Mask.ofText mask.toList [] c.sizeLimit = .error f) :
    Answers c mask url (.notBuilt f)
  | unmatched {m : Mask} (hm : Mask.ofText mask.toList [] c.sizeLimit = .ok m)
    (ha : m.accepts url.toList = false) : Answers c mask url .unmatched
  | refused {m : Mask} {f : Request.Fault}
    (hm : Mask.ofText mask.toList [] c.sizeLimit = .ok m) (ha : m.accepts url.toList = true)
    (hr : Request.ofUrl url = .error f) : Answers c mask url (.refused f)
  | made {m : Mask} {r : Request} (hm : Mask.ofText mask.toList [] c.sizeLimit = .ok m)
    (ha : m.accepts url.toList = true) (hr : Request.ofUrl url = .ok r) :
    Answers c mask url (.made r)

theorem exists_answer (c : Config) (mask url : String) : ∃ a, Answers c mask url a := by
  cases hm : Mask.ofText mask.toList [] c.sizeLimit with
  | error f => exact ⟨_, .notBuilt hm⟩
  | ok m =>
    cases ha : m.accepts url.toList with
    | false => exact ⟨_, .unmatched hm ha⟩
    | true =>
      cases hr : Request.ofUrl url with
      | error f => exact ⟨_, .refused hm ha hr⟩
      | ok r => exact ⟨_, .made hm ha hr⟩

namespace Answer

/-- The answer as a check shows it. -/
def checked (mask url : String) (all : Bool) : Answer → List Char × Except Fault Unit
  | notBuilt f => ([], .error (.mask f))
  | unmatched => (verdictLine false url, if all then .error (.missed 1 1 mask) else .ok ())
  | refused _ | made _ => (verdictLine true url, .ok ())

/-- The answer as a request shows it. -/
def requested (mask url : String) : Answer → List Char × Except Fault Unit
  | notBuilt f => ([], .error (.mask f))
  | unmatched => ([], .error (.unmatched url mask))
  | refused f => ([], .error (.request f))
  | made r => (r.toJson.pretty ++ ['\n'], .ok ())

/-- The answer as a filter shows it. -/
def filtered (mask url : String) : Answer → List Char × Except Fault Nat
  | notBuilt f => ([], .error (.mask f))
  | unmatched => ([], .ok 0)
  | refused f => ([], .error (.during (.createRequest url) (.request f)))
  | made r => (hitLine (mask, r), .ok 1)

end Answer

/-- Without a template, the request of a mask is that of the URL. -/
theorem requestFor_of_ofText {m : Mask} (h : Mask.ofText mask.toList [] c.sizeLimit = .ok m) :
    m.requestFor url = Request.ofUrl url := by
  rw [Mask.requestFor, Mask.fieldsFor, Mask.template_of_ofText h]
  rfl

theorem seen_check_one (h : Answers c mask url a) (all : Bool) :
    (check c mask [url] all).seen = a.checked mask url all := by
  cases h with
  | notBuilt hm => exact seen_check_of_error hm
  | unmatched hm ha | refused hm ha | made hm ha =>
    rw [seen_check_of_ok hm]
    simp [Answer.checked, checkLine, misses, ha]

/-- A request with a mask, and without a template. -/
theorem seen_request_of_ok {m : Mask} (hm : Mask.ofText mask.toList [] c.sizeLimit = .ok m) :
    (request c mask url none).seen =
      if m.accepts url.toList then
        match Request.ofUrl url with
        | .error f => ([], .error (.request f))
        | .ok r => (r.toJson.pretty ++ ['\n'], .ok ())
      else ([], .error (.unmatched url mask)) := by
  rw [request, template, seen_bind_silent (seen_pure []),
    seen_bind_silent ((seen_built _).trans (by rw [hm]; rfl)), seen_bind_silent (seen_ask m _)]
  cases m.accepts url.toList with
  | false => rfl
  | true =>
    have hmade := seen_create m url
    rw [requestFor_of_ofText hm] at hmade
    cases hr : Request.ofUrl url with
    | error f => exact seen_bind_error (hmade.trans (by rw [hr]; rfl))
    | ok r => exact seen_bind_silent (hmade.trans (by rw [hr]; rfl))

theorem seen_request_one (h : Answers c mask url a) :
    (request c mask url none).seen = a.requested mask url := by
  cases h with
  | notBuilt hm =>
    rw [request, template, seen_bind_silent (seen_pure [])]
    exact seen_bind_error ((seen_built _).trans (by rw [hm]; rfl))
  | unmatched hm ha => rw [seen_request_of_ok hm, ha]; rfl
  | refused hm ha hr | made hm ha hr => rw [seen_request_of_ok hm, ha, hr]; rfl

/-! ## The only line of an input -/

/-- The text can be the URL of a line: there is something in it, no blanks stand at its ends, and
it is one line. -/
structure FitsLine (url : String) : Prop where
  ne_empty : url ≠ ""
  trimmed : Text.trim url.toList = url.toList
  one_line : '\n' ∉ url.toList

/-- The input is one line that holds the URL. The line may be ended, in one way or another. -/
def IsOnlyLine (url : String) (bytes : List UInt8) : Prop :=
  ∃ ending ∈ [[], ['\n'], ['\r', '\n']], bytes = Utf8.encode (url.toList ++ ending)

/-- The one line of the input is the URL again once the blanks are off. -/
theorem IsOnlyLine.cut (hin : IsOnlyLine url bytes) (h : FitsLine url) :
    ∃ s, IsCut bytes [Utf8.encode s] ∧ Text.trim s = url.toList := by
  have hne : url.toList ≠ [] := fun he => h.ne_empty (by simpa using he)
  have hnl {s : List Char} (hs : '\n' ∉ s) : 10 ∉ Utf8.encode s := fun hb =>
    hs ((Utf8.byte_mem_encode (a := '\n') (by decide)).1 hb)
  have ended {s : List Char} (hs : '\n' ∉ s) :
      IsCut (Utf8.encode (s ++ ['\n'])) [Utf8.encode s] := by
    rw [Utf8.encode, List.flatMap_append]
    exact IsCut.cons (hnl hs) ⟨List.forall_mem_nil _, Or.inl rfl⟩
  obtain ⟨ending, hend, rfl⟩ := hin
  simp only [List.mem_cons, List.not_mem_nil, or_false] at hend
  rcases hend with rfl | rfl | rfl
  · rw [List.append_nil]
    refine ⟨url.toList, ⟨List.forall_mem_singleton.2 (hnl h.one_line), Or.inr ?_⟩, h.trimmed⟩
    obtain ⟨ch, t, ht⟩ := List.exists_cons_of_ne_nil hne
    refine ⟨[], _, rfl, ?_, rfl⟩
    rw [ht, Utf8.encode_cons]
    exact List.append_ne_nil_of_left_ne_nil (Utf8.encodeChar_ne_nil ch) _
  · exact ⟨url.toList, ended h.one_line, h.trimmed⟩
  · refine ⟨url.toList ++ ['\r'], ?_, Text.trim_append_blanks hne h.trimmed ?_⟩
    · have := ended (s := url.toList ++ ['\r']) (by simp [h.one_line])
      rwa [List.append_assoc] at this
    · exact List.forall_mem_singleton.2 rfl

theorem seen_filter_one (ha : Answers c mask url a) (h : FitsLine url)
    (hin : IsOnlyLine url bytes) :
    (filter c [mask] (.ok bytes)).seen = a.filtered mask url := by
  obtain ⟨s, hcut, hs⟩ := hin.cut h
  obtain rfl : String.ofList (Text.trim s) = url := by rw [hs, String.ofList_toList]
  have hne : Text.trim s ≠ [] := fun he => h.ne_empty (by rw [he])
  have hmask {m : Mask} (hm : Mask.ofText mask.toList [] c.sizeLimit = .ok m) :
      candidates c [mask] = [(mask, m)].map fun e => (e.1, .ok e.2) := by
    simp [candidates, hm, Except.mapError]
  have hfirst {m : Mask} (ha : m.accepts (Text.trim s) = true) :
      First [(mask, m)] (Text.trim s) (mask, m) := ⟨[], [], rfl, nofun, ha⟩
  cases ha with
  | @notBuilt f hm =>
    have hrefused : candidates c [mask] = [] ++ [(mask, .error (.mask f))] := by
      simp [candidates, hm, Except.mapError]
    exact seen_filter (.notBuilt hrefused nofun)
  | @unmatched m hm ha =>
    rw [String.toList_ofList] at ha
    have hdone : Filtered c [mask] bytes (written [none]) (.ok 0) :=
      .done (hmask hm) (List.cons_ne_nil _ _) hcut
        (.cons (.unmatched rfl (List.forall_mem_singleton.2 ha)) .nil)
    exact seen_filter hdone
  | @refused m f hm ha hr =>
    rw [String.toList_ofList] at ha
    have hstopped : Filtered c [mask] bytes (written []) (.error (.during (.createRequest _) _)) :=
      .stopped (hmask hm) (List.cons_ne_nil _ _)
        (show IsCut bytes ([] ++ [Utf8.encode s]) from hcut) .nil
        (.refused rfl hne (hfirst ha) ((requestFor_of_ofText hm).trans hr))
    exact seen_filter hstopped
  | @made m r hm ha hr =>
    rw [String.toList_ofList] at ha
    have hdone : Filtered c [mask] bytes (written [some (mask, r)]) (.ok 1) :=
      .done (hmask hm) (List.cons_ne_nil _ _) hcut
        (.cons (.hit rfl hne (hfirst ha) ((requestFor_of_ofText hm).trans hr)) .nil)
    rw [seen_filter hdone, written, List.reduceOption_singleton]
    simp [Answer.filtered]

/-! ## What is written is read back -/

/-- The text is read as an object whose fields make the request. -/
def ReadsRequest (text : List Char) (r : Request) : Prop :=
  ∃ m, Json.parse text = .ok (.object m) ∧ Request.ofFields m = .ok r

/-- The text is read as an object that holds a label and an object whose fields make the
request. -/
def ReadsLabelled (text : List Char) (label : String) (r : Request) : Prop :=
  ∃ m, Json.parse text = .ok (.object [("pattern", .string label), ("request", .object m)]) ∧
    Request.ofFields m = .ok r

section OfUrl

theorem nodup_urlField : ([(Request.Field.url.name, Json.string url)].map (·.1)).Nodup :=
  List.nodup_singleton _

/-- Where only the URL is given, there is no data, -/
theorem userData_of_ofUrl (h : Request.ofUrl url = .ok r) : r.userData = [] := by
  refine (Request.userData_or nodup_urlField h).resolve_left fun hd => ?_
  exact absurd (Prod.mk.inj (List.mem_singleton.1 hd)).1 (by decide)

/-- and nothing that a reader could not take. -/
theorem exact_of_ofUrl (h : Request.ofUrl url = .ok r) : ∀ e ∈ r.fields, e.2.All Json.Exact :=
  Request.all_fields_exact nodup_urlField h (List.forall_mem_singleton.2 trivial)

theorem members_of_ofUrl (h : Request.ofUrl url = .ok r) : Request.ofFields r.members = .ok r := by
  obtain ⟨d, -, hd⟩ := Request.ofFields_ok.1 h
  exact Request.ofFields_members.2 (Request.valid_of_finish hd)

theorem isBlank_lineEnd : ∀ ch ∈ ['\n'], Json.Cursor.isBlank ch = true :=
  List.forall_mem_singleton.2 rfl

theorem readsRequest_pretty (h : Request.ofUrl url = .ok r) :
    ReadsRequest (r.toJson.pretty ++ ['\n']) r := by
  have hexact : r.toJson.All Json.Exact := ⟨trivial, Json.all_members_iff.2 (exact_of_ofUrl h)⟩
  have hheight : r.toJson.height < Json.Reader.depthLimit := by
    rw [Request.height_toJson, userData_of_ofUrl h]
    decide
  have hsorted : (Json.object [(Request.Field.url.name, .string url)]).All Json.KeysSorted :=
    ⟨List.pairwise_singleton .., trivial, trivial⟩
  have hparse := (Json.parse_pretty hexact isBlank_lineEnd).1 hheight
  rw [Request.inOrder_toJson hsorted h] at hparse
  exact ⟨r.members, hparse, members_of_ofUrl h⟩

theorem readsLabelled_hitLine (h : Request.ofUrl url = .ok r) :
    ReadsLabelled (hitLine (mask, r)) mask r := by
  have hheight : (hit mask r).height < Json.Reader.depthLimit := by
    rw [height_hit, userData_of_ofUrl h]
    decide
  have hsorted : ∀ e ∈ r.fields, e.2.All Json.KeysSorted :=
    Request.all_fields_keysSorted nodup_urlField h (List.forall_mem_singleton.2 trivial)
  have hparse := (Json.parse_compact (exact_hit (exact_of_ofUrl h)) isBlank_lineEnd).1 hheight
  rw [inOrder_hit hsorted] at hparse
  exact ⟨r.members, hparse, members_of_ofUrl h⟩

end OfUrl

/-! ## Agreement -/

/-- The mask could not be built. -/
def IsNotBuilt {α : Type} (result : Except Fault α) : Prop :=
  ∃ e f, result = .error e ∧ e.root = .mask f

/-- What a check, a request and a filter have in common where the mask can be built. -/
structure Agree (mask url : String) (checked requested : List Char × Except Fault Unit)
    (filtered : List Char × Except Fault Nat) : Prop where
  built : ¬ IsNotBuilt checked.2 ∧ ¬ IsNotBuilt requested.2 ∧ ¬ IsNotBuilt filtered.2
  /-- The check has an answer. -/
  said : ∃ b, checked.1 = verdictLine b url
  unmatched_request : checked.1 = verdictLine false url ↔ requested.2 = .error (.unmatched url mask)
  unmatched_filter : checked.1 = verdictLine false url ↔ filtered = ([], .ok 0)
  /-- Either both find the same request, or both fail for the same reason. -/
  matched : checked.1 = verdictLine true url →
    (∃ r, requested.2 = .ok () ∧ filtered.2 = .ok 1 ∧ ReadsRequest requested.1 r ∧
      ReadsLabelled filtered.1 mask r) ∨
    ∃ f, requested = ([], .error (.request f)) ∧
      filtered = ([], .error (.during (.createRequest url) (.request f)))

theorem verdictLine_inj {b b' : Bool} : verdictLine b url = verdictLine b' url ↔ b = b' := by
  cases b <;> cases b' <;> simp [verdictLine, verdict]

@[simp] theorem not_isNotBuilt_ok {α : Type} (x : α) : ¬ IsNotBuilt (.ok x) := by
  rintro ⟨e, f, h, -⟩
  cases h

@[simp] theorem isNotBuilt_error {α : Type} {e : Fault} :
    IsNotBuilt (.error e : Except Fault α) ↔ ∃ f, e.root = .mask f := by
  simp [IsNotBuilt]

theorem agree_unmatched (mask url : String) (all : Bool) :
    Agree mask url (Answer.unmatched.checked mask url all) (Answer.unmatched.requested mask url)
      (Answer.unmatched.filtered mask url) where
  built := by cases all <;> simp [Answer.checked, Answer.requested, Answer.filtered, Fault.root]
  said := ⟨false, rfl⟩
  unmatched_request := iff_of_true rfl rfl
  unmatched_filter := iff_of_true rfl rfl
  matched h := absurd (verdictLine_inj.1 h) (by decide)

theorem agree_refused (mask url : String) (all : Bool) (f : Request.Fault) :
    Agree mask url ((Answer.refused f).checked mask url all)
      ((Answer.refused f).requested mask url) ((Answer.refused f).filtered mask url) where
  built := by simp [Answer.checked, Answer.requested, Answer.filtered, Fault.root]
  said := ⟨true, rfl⟩
  unmatched_request := by simp [Answer.checked, Answer.requested, verdictLine_inj]
  unmatched_filter := by simp [Answer.checked, Answer.filtered, verdictLine_inj]
  matched _ := Or.inr ⟨f, rfl, rfl⟩

theorem agree_made (mask : String) (all : Bool) (hr : Request.ofUrl url = .ok r) :
    Agree mask url ((Answer.made r).checked mask url all)
      ((Answer.made r).requested mask url) ((Answer.made r).filtered mask url) where
  built := by simp [Answer.checked, Answer.requested, Answer.filtered]
  said := ⟨true, rfl⟩
  unmatched_request := by simp [Answer.checked, Answer.requested, verdictLine_inj]
  unmatched_filter := by simp [Answer.checked, Answer.filtered, verdictLine_inj]
  matched _ := Or.inl ⟨r, rfl, rfl, readsRequest_pretty hr, readsLabelled_hitLine hr⟩

/-- A check of one URL, a request for it and a filter of the line that holds it agree, or all three
fail because the mask is malformed. -/
theorem commands_agree (c : Config) (mask : String) (all : Bool) (h : FitsLine url)
    (hin : IsOnlyLine url bytes) :
    (∃ reason,
      (check c mask [url] all).seen = ([], .error (.mask (.malformed mask.toList reason))) ∧
      (request c mask url none).seen = ([], .error (.mask (.malformed mask.toList reason))) ∧
      (filter c [mask] (.ok bytes)).seen = ([], .error (.mask (.malformed mask.toList reason)))) ∨
    Agree mask url (check c mask [url] all).seen (request c mask url none).seen
      (filter c [mask] (.ok bytes)).seen := by
  obtain ⟨a, ha⟩ := exists_answer c mask url
  rw [seen_check_one ha, seen_request_one ha, seen_filter_one ha h hin]
  cases ha with
  | notBuilt hm =>
    obtain ⟨reason, rfl⟩ := Mask.malformed_of_error hm
    exact Or.inl ⟨reason, rfl, rfl, rfl⟩
  | unmatched => exact Or.inr (agree_unmatched mask url all)
  | refused => exact Or.inr (agree_refused mask url all _)
  | made _ _ hr => exact Or.inr (agree_made mask all hr)

/-- A URL that matches, on a line that ends with two characters. -/
theorem commands_agree_of_match :
    let bytes := Utf8.encode "a:bb\r\n".toList
    FitsLine "a:bb" ∧ IsOnlyLine "a:bb" bytes ∧
      (check {} "a:[b+]" ["a:bb"] true).output = verdictLine true "a:bb" ∧
      ∃ r, ReadsRequest (request {} "a:[b+]" "a:bb" none).output r ∧
        ReadsLabelled (filter {} ["a:[b+]"] (.ok bytes)).output "a:[b+]" r := by
  have hline : FitsLine "a:bb" := ⟨by decide, by decide, by decide⟩
  have hin : IsOnlyLine "a:bb" (Utf8.encode "a:bb\r\n".toList) := ⟨['\r', '\n'], by simp, rfl⟩
  have hcheck : (check {} "a:[b+]" ["a:bb"] true).output = verdictLine true "a:bb" := by
    decide +kernel
  have hmade : (request {} "a:[b+]" "a:bb" none).result.toOption.isSome = true := by
    decide +kernel
  refine ⟨hline, hin, hcheck, ?_⟩
  rcases commands_agree {} "a:[b+]" true hline hin with ⟨reason, hfail, -, -⟩ | hagree
  · rw [(Prod.mk.inj hfail).1] at hcheck
    cases hcheck
  · rcases hagree.matched hcheck with ⟨r, -, -, hrequest, hfilter⟩ | ⟨f, hfail, -⟩
    · exact ⟨r, hrequest, hfilter⟩
    · rw [(Prod.mk.inj hfail).2] at hmade
      cases hmade

end UrlMask.Command
