import UrlMask.Proofs.Mask.Containment
import UrlMask.Proofs.Regex.Limit
import UrlMask.Proofs.Regex.Tips

/-!
# Masks that end inside a section

Nothing but the reader of regexes looks after a section that is never closed: its group is left
open in the source, unless the section closes it with a round bracket of its own.

* `Layout.not_read_of_noClose`: without round brackets the group stays open.
* `Layout.openGroup_of_source`, `Layout.source_of_openGroup`: after sections that stay in their
  groups, the source is a regex if what follows them is one.
* `Mask.refused_iff`: a mask is refused for every template and limit, or its source means something.
* `Mask.refused_iff_of_unclosed`: when a mask that ends inside a section is refused.
-/
namespace UrlMask

open Regex Regex.Parser

variable {s s' s₂ : State} {c c' c₂ : Cursor} {items items' : List Ast}
  {names names' new : List String} {lay : Layout}

/-- What is read outside of all groups after an item does not depend on what came before it. -/
theorem Top.finishes {x : Ast} (h : Top (x :: items) (new ++ names) s)
    (h' : Top (x :: items') (new ++ names') s') (hc : c'.rest = c.rest) (hr : Reaches s c s₂ c₂)
    (hend : (c₂.skip s₂.verbose).rest = []) (hg : s₂.groups = [])
    (hn : ∀ n ∈ s₂.names.texts, n ∈ names' → n ∈ names) :
    ∃ s₃ c₃ l, Reaches s' c' s₃ c₃ ∧ (c₃.skip s₃.verbose).rest = [] ∧ s₃.groups = [] ∧
      s₂.names.texts = l ++ names ∧ s₃.names.texts = l ++ names' := by
  -- First the names are exchanged, then the items.
  have hsw : Swap [] [] c c' := ⟨c.rest, by simp, by simp [hc]⟩
  have same : s.Same names names' { s with names := s'.names } := ⟨rfl, new, h.names, h'.names⟩
  obtain ⟨s₁, c₁, hr₁, same₁, hend₁⟩ := hr.swap hend hsw same nofun nofun nofun hn
  obtain ⟨l, hl, hl'⟩ := same₁.2
  have tip {s : State} {items : List Ast} {names : List String} (h : Top (x :: items) names s) :
      s.level.tip = some x.isRepeatable := by
    obtain ⟨a, as, hi, rfl, -⟩ := List.map_eq_cons_iff.1 h.items
    rw [Level.tip, hi, Ast.isRepeatable_bare]
    rfl
  have alike : State.Alike { s with names := s'.names } s' :=
    ⟨h'.verbose.trans h.verbose.symm, rfl, (tip h').trans (tip h).symm, by
      rw [h'.groups]; exact congrArg _ h.groups.symm⟩
  obtain ⟨s₃, hr₃, ha⟩ := hr₁.alike alike
  have hg₃ := ha.groups
  rw [same₁.groups_nil hg, List.map_nil, List.map_eq_nil_iff] at hg₃
  exact ⟨s₃, c₁, l, hr₃, by rw [ha.verbose, hend₁], hg₃, hl, by rw [ha.names, hl']⟩

namespace Layout

/-! ## Without round brackets -/

theorem not_mem_escape (l : List Char) : ')' ∉ escape l := by
  intro h
  obtain ⟨c, -, hc⟩ := List.mem_flatMap.1 h
  have hex (d : Fin 16) : ')' ≠ Json.hexChar d := fun e => by
    have := (hexDigit_hexChar d).1
    rw [← e] at this
    cases this
  unfold escapeChar at hc
  split at hc
  · next ha =>
    cases List.mem_singleton.1 hc
    cases ha
  · split at hc
    · next hle =>
      simp only [List.mem_cons, Char.reduceEq, List.not_mem_nil, or_false, false_or] at hc
      exact hc.elim (hex ⟨c.toNat / 16, by omega⟩) (hex ⟨c.toNat % 16, Nat.mod_lt _ (by decide)⟩)
    · simp only [List.mem_append, List.mem_cons, Char.reduceEq, List.not_mem_nil, or_false,
        false_or] at hc
      have := (hexValue_hexDigits c.toNat).2 _ hc
      cases this

theorem suffix_of_not_mem {x : Char} {r u v : List Char} (h : x :: r <:+ u ++ v) (hx : x ∉ u) :
    x :: r <:+ v := by
  obtain ⟨w, hw⟩ := h
  obtain ⟨_ | ⟨y, a⟩, rfl, ha⟩ | ⟨a, rfl, rfl⟩ := List.append_eq_append_iff.1 hw
  · exact ha ▸ List.suffix_refl _
  · cases ha
    simp at hx
  · exact List.suffix_append _ _

/-- Without round brackets in the sections, another layout follows each that closes a section. -/
theorem NoClose.next (hcl : ¬ lay.Closed) (h : lay.NoClose) {r : List Char}
    (hr : ')' :: r <:+ lay.inside ++ ['$']) :
    ∃ next : Layout, ¬ next.Closed ∧ next.NoClose ∧ r = next.body ++ ['$'] := by
  induction lay with
  | literal => exact absurd trivial hcl
  | unclosed l t =>
    have := hr.subset (List.mem_cons_self ..)
    exact absurd (by simpa [inside, tail] using this) h.2
  | section' l u rest ih =>
    have hu : ')' ∉ u := h.1 u (List.mem_cons_self ..)
    have hcl : ¬ rest.Closed := hcl
    have hrest : rest.NoClose := ⟨fun v hv => h.1 v (List.mem_cons_of_mem _ hv), h.2⟩
    rw [inside, List.append_assoc, List.cons_append] at hr
    rcases List.suffix_cons_iff.1 (suffix_of_not_mem hr hu) with he | hs
    · exact ⟨rest, hcl, hrest, (List.cons.inj he).2⟩
    · rw [body_eq_inside hcl, List.append_assoc, List.append_assoc] at hs
      exact ih hcl hrest (suffix_of_not_mem (suffix_of_not_mem hs (not_mem_escape _)) (by decide))

/-- Without round brackets in the sections, a group stays open. -/
theorem not_read_of_noClose (hcl : ¬ lay.Closed) (hno : lay.NoClose) (h : Top items names s)
    (hc : c.rest = lay.body ++ ['$']) (hr : Reaches s c s₂ c₂) (hst : Stuck s₂ c₂) :
    s₂.groups ≠ [] := by
  intro hg
  induction hlen : c.rest.length using Nat.strongRecOn generalizing lay s c items names with
  | ind n ih =>
    rw [body_eq_inside hcl, List.append_assoc, List.append_assoc] at hc
    obtain ⟨s₁, c₁, h₁, hc₁, t₁⟩ := h.reads_escape _ _ hc
    obtain ⟨g, c', hopen, hc', hk, ho, hv⟩ := t₁.opens hc₁
    have hr' := (h₁.trans hopen).confluent hr hst
    obtain ⟨s₃, c₃, h₃, -, hp, hrest⟩ := hr'.closes (by simp [hg])
    -- The bracket that closes the group is one between sections.
    have hend := Cursor.peek_eq_some.1 hp
    have hsuf := (c₃.skip_suffix s₃.verbose).trans h₃.suffix
    rw [hend, hc'] at hsuf
    obtain ⟨next, hcl', hno', hnext⟩ := hno.next hcl hsuf
    refine ih _ ?_ hcl' hno' (t₁.closes hk ho hv s₃ _) hnext hrest rfl
    have hlt := hsuf.length_le
    simp only [List.length_cons, List.length_append, List.length_nil] at hlt
    rw [← hlen, hc]
    simp only [List.length_cons, List.length_append, List.length_nil]
    omega

/-! ## After sections that stay in their groups -/

theorem apart_append {l : List (List Char)} {u : List Char} :
    (l ++ [u]).Pairwise Apart ↔ l.Pairwise Apart ∧ ∀ v ∈ l, Apart v u := by
  simp [List.pairwise_append]

/-- If the source of a mask is a regex, so is what its last group is, and no name is given twice. -/
theorem openGroup_of_source (hcl : ¬ lay.Closed) (hs : ∀ u ∈ lay.sections, Contained u) {ast : Ast}
    (h : Ast.ofText lay.source = .ok ast) : (∃ ast, Ast.ofText lay.openGroup = .ok ast) ∧
      (lay.sections ++ [lay.openGroup]).Pairwise Apart := by
  obtain ⟨s₂, c₂, hr, hend, hg, -⟩ := Ast.ofText_ok.1 h
  have hst := stuck_of_end hend
  obtain ⟨as, names, s, c, ht, hn, t, hc, hr₁⟩ := Tree.passes_front hcl hs hr hst hg
  obtain ⟨u, v, a, new, s', c', hu, hsec, -, hr₂, hc', t'⟩ := Section.of_reads t hn hc hr₁ hst hg
  obtain ⟨s₀, c₀, h₀, hc₀, t₀⟩ := hsec.reads (c := ⟨0, lay.openGroup⟩) .init nofun
    (by rw [← hu]; rfl)
  obtain ⟨s₃, c₃, l, h₃, hend₃, hg₃, hl, hl₃⟩ :=
    t'.finishes t₀ (hc₀.trans hc'.symm) hr₂ hend hg nofun
  have hreads : ReadsAs lay.openGroup s₃ _ := ⟨c₃, h₀.trans h₃, hend₃, hg₃, rfl⟩
  refine ⟨⟨_, Ast.ofText_ok.2 ⟨s₃, hreads⟩⟩, apart_append.2 ⟨?_, fun w hw n hn₁ hn₂ => ?_⟩⟩
  · rw [← sections_front]
    exact ht.nodup_iff.1 hn
  · have hnd := hr.nodup .nil
    rw [mem_captureNames hreads, hl₃, List.append_nil] at hn₂
    rw [hl, List.nodup_append] at hnd
    exact hnd.2.2 n hn₂ n (ht.mem_names.2 ⟨w, by rwa [sections_front], hn₁⟩) rfl

/-- If what the last group is in the source is a regex, so is the source, as long as no name is
given twice. -/
theorem source_of_openGroup (hcl : ¬ lay.Closed) (hs : ∀ u ∈ lay.sections, Contained u) {ast : Ast}
    (h : Ast.ofText lay.openGroup = .ok ast)
    (hapart : (lay.sections ++ [lay.openGroup]).Pairwise Apart) :
    ∃ ast, Ast.ofText lay.source = .ok ast := by
  obtain ⟨s₃, hreads⟩ := Ast.ofText_ok.1 h
  obtain ⟨c₃, hr, hend, hg, -⟩ := id hreads
  obtain ⟨hsections, hgroup⟩ := apart_append.1 hapart
  obtain ⟨u, v, a, new, s₀, c₀, hu, hsec, -, hr₀, hc₀, t₀⟩ :=
    Section.of_reads .init .nil rfl hr (stuck_of_end hend) hg
  -- The same group comes after the items of the sections before it.
  rw [← sections_front] at hs hsections hgroup
  obtain ⟨as, names, ht⟩ := Tree.of_sections lay.closed_front fun u hu => (hs u hu).reads
  have hfree {n : String} (hn : n ∈ s₃.names.texts) : n ∉ names := fun hm => by
    obtain ⟨w, hw, hnw⟩ := ht.mem_names.1 hm
    exact hgroup w hw n hnw ((mem_captureNames hreads).2 hn)
  obtain ⟨s₁, c₁, h₁, hc₁, t₁⟩ := Top.reads_start (r := lay.front.body ++ lay.openGroup)
  obtain ⟨s, c, h, hc, t⟩ := ht.reads t₁ (by simpa using ht.nodup_iff.2 hsections) hc₁
  obtain ⟨s', c', h', hc', t'⟩ := hsec.reads t (r := v)
    (fun n hn hm => hfree (hr₀.texts (by rw [t₀.names]; simpa using hn)) (by simpa using hm))
    (by rw [hc, ← hu]; rfl)
  obtain ⟨s₂, c₂, l, h₂, hend₂, hg₂, -⟩ := t₀.finishes t' (hc'.trans hc₀.symm) hr₀ hend hg
    fun n hn hm => absurd (by simpa using hm) (hfree hn)
  refine ⟨_, Ast.ofText_ok.2 ⟨s₂, c₂, ?_, hend₂, hg₂, rfl⟩⟩
  rw [source, body_of_unclosed hcl, List.append_assoc, List.append_assoc]
  exact h₁.trans (h.trans (h'.trans h₂))

end Layout

namespace Mask

variable {text : List Char}

/-- Whether a mask is refused for its text, whatever the template and the limit. -/
def Refused (text : List Char) : Prop :=
  ∀ template limit, ∃ reason, ofText text template limit = .error (.malformed text reason)

/-- A mask is refused for its text, or its source is accepted as a regex and means something. -/
theorem refused_iff (hb : Text.trim text ≠ []) : Refused text ↔
    ¬ ∃ p x, Parsed.ofText (Layout.ofText (Text.trim text)).source = .ok p ∧
      p.ast.meaning .init = .ok x := by
  constructor
  · rintro h ⟨p, ⟨r, f⟩, hp, hm⟩
    obtain ⟨limit, hfits⟩ := r.exists_fits
    obtain ⟨reason, he⟩ := h [] limit
    simp [ofText, sourceOf_eq hb, compile, hp, hm, hfits] at he
  · intro h template limit
    cases he : ofText text template limit with
    | error e =>
      obtain ⟨reason, rfl⟩ := malformed_of_error he
      exact ⟨reason, rfl⟩
    | ok m =>
      obtain ⟨-, p, f, hp, hm⟩ := ofText_ok he
      exact absurd ⟨p, _, hp, hm⟩ h

/-- Without round brackets in its sections, a mask that ends inside a section is refused. -/
theorem refused_of_noClose (hb : Text.trim text ≠ [])
    (hcl : ¬ (Layout.ofText (Text.trim text)).Closed)
    (hno : (Layout.ofText (Text.trim text)).NoClose) : Refused text := by
  refine (refused_iff hb).2 fun ⟨p, _, hp, _⟩ => ?_
  obtain ⟨s₂, c₂, hr, hend, hg, -⟩ := Ast.ofText_ok.1 (Parsed.ofText_ok.1 hp).1
  have hst := stuck_of_end hend
  obtain ⟨s, c, h, hc, t⟩ := Top.reads_start
  exact Layout.not_read_of_noClose hcl hno t hc (h.confluent hr hst) hst hg

/-- A mask that ends inside a section is refused, whatever the template and the limit, if its
source is no regex or has no meaning, and in no other case. The source is no regex if there is no
closing round bracket in the sections. After sections that stay in their groups, it is a regex if
the section that is never closed is one with the opening bracket of its group in front, and gives
no name twice. -/
theorem refused_iff_of_unclosed (hcl : ¬ (Layout.ofText (Text.trim text)).Closed) :
    (Refused text ↔ ¬ ∃ p x, Parsed.ofText (Layout.ofText (Text.trim text)).source = .ok p ∧
      p.ast.meaning .init = .ok x) ∧
    ((Layout.ofText (Text.trim text)).NoClose → Refused text) ∧
    ((∀ u ∈ (Layout.ofText (Text.trim text)).sections, Layout.Contained u) →
      ((∃ ast, Ast.ofText (Layout.ofText (Text.trim text)).source = .ok ast) ↔
        (∃ ast, Ast.ofText (Layout.ofText (Text.trim text)).openGroup = .ok ast) ∧
          ((Layout.ofText (Text.trim text)).sections ++
            [(Layout.ofText (Text.trim text)).openGroup]).Pairwise Layout.Apart)) := by
  have hb : Text.trim text ≠ [] := fun hb => by
    rw [hb] at hcl
    exact hcl trivial
  refine ⟨refused_iff hb, refused_of_noClose hb hcl, fun hs => ⟨?_, ?_⟩⟩
  · rintro ⟨ast, h⟩
    exact Layout.openGroup_of_source hcl hs h
  · rintro ⟨⟨ast, h⟩, hapart⟩
    exact Layout.source_of_openGroup hcl hs h hapart

/-- The section of `a[b|c` has no round bracket. -/
theorem refused_of_open_branches : Refused "a[b|c".toList :=
  (refused_iff_of_unclosed (by decide)).2.1 ⟨by decide, by decide⟩

/-- The section of `a[b)` is never closed, but it closes its group. -/
theorem accepted_unclosed : ¬ (Layout.ofText (Text.trim "a[b)".toList)).Closed ∧
    ∃ m, ofText "a[b)".toList [] defaultLimit = .ok m ∧ m.accepts "ab".toList = true := by
  have h : (ofText "a[b)".toList [] defaultLimit).toOption.any (·.accepts "ab".toList) = true := by
    decide +kernel
  exact ⟨by decide, exists_ok_of_any h⟩

end Mask

end UrlMask
