import UrlMask.Proofs.Regex.Run
import UrlMask.Proofs.Regex.Search
import UrlMask.Regex.Meaning

/-!
# The bounds of repetitions

The reader refuses a repetition that asks for more rounds than it allows, so that a search for
what a pattern means finds what there is.

* `Ast.meaning_ordered`: a regex takes its bounds from the tree.
* `Parsed.ordered`: the bounds in a pattern that is accepted are in order.
-/
namespace UrlMask.Regex

/-- No repetition asks for more rounds than it allows. -/
def Ast.Ordered : Ast → Prop
  | .repetition _ min max _ body => (∀ m ∈ max, min ≤ m) ∧ body.Ordered
  | .group _ _ body => body.Ordered
  | .alternation _ branches => list branches
  | .concat _ items => list items
  | _ => True
where
  list : List Ast → Prop
    | [] => True
    | a :: as => a.Ordered ∧ list as

theorem Ast.list_ordered (as : List Ast) : Ordered.list as ↔ ∀ a ∈ as, a.Ordered := by
  induction as with
  | nil => simp [Ordered.list]
  | cons a as ih => simp [Ordered.list, ih]

mutual

theorem Ast.meaning_ordered (f : Flags) : (a : Ast) → a.Ordered →
    ∀ {r g}, a.meaning f = .ok (r, g) → Regex.Ordered r
  | .empty _, _, _, _, h => by simp only [meaning] at h; cases h; trivial
  | .flags _ _, _, _, _, h => by simp only [meaning] at h; cases h; trivial
  | .literal l, _, _, _, h => by
    simp only [meaning, bind_ok] at h
    obtain ⟨r, hr, h⟩ := h
    cases h
    unfold Literal.meaning at hr
    split at hr
    · cases hr; trivial
    · split at hr
      · cases hr
      · cases hr; trivial
  | .dot _, _, _, _, h => by
    simp only [meaning] at h
    split at h
    · cases h; trivial
    · cases h
  | .assertion _ _, _, _, _, h => by simp only [meaning] at h; cases h; trivial
  | .property _, _, _, _, h => by
    simp only [meaning, bind_ok] at h
    obtain ⟨s, -, h⟩ := h
    cases h
    trivial
  | .shorthand _, _, _, _, h => by
    simp only [meaning, bind_ok] at h
    obtain ⟨s, -, h⟩ := h
    cases h
    trivial
  | .bracketed _ _ _, _, _, _, h => by
    simp only [meaning, bind_ok] at h
    obtain ⟨s, -, s', -, h⟩ := h
    cases h
    trivial
  | .repetition _ min max greedy body, ho, _, _, h => by
    simp only [meaning, bind_ok, Prod.exists] at h
    obtain ⟨r, g, hr, h⟩ := h
    cases h
    simp only [Ordered] at ho
    exact ⟨ho.1, Ast.meaning_ordered f body ho.2 hr⟩
  | .group _ kind body, ho, _, _, h => by
    simp only [meaning, bind_ok, Prod.exists] at h
    obtain ⟨r, g, hr, h⟩ := h
    cases h
    simp only [Ordered] at ho
    have hb := Ast.meaning_ordered (kind.flags f) body ho hr
    exact hb
  | .alternation _ branches, ho, _, _, h => by
    simp only [meaning] at h
    simp only [Ordered] at ho
    exact Ast.meaningAlt_ordered f branches ho h
  | .concat _ items, ho, _, _, h => by
    simp only [meaning] at h
    simp only [Ordered] at ho
    exact Ast.meaningSeq_ordered f items ho h

theorem Ast.meaningAlt_ordered (f : Flags) : (as : List Ast) → Ordered.list as →
    ∀ {r g}, meaning.meaningAlt f as = .ok (r, g) → Regex.Ordered r
  | [], _, _, _, h => by simp only [meaning.meaningAlt] at h; cases h; trivial
  | [a], ho, _, _, h => by
    simp only [meaning.meaningAlt] at h
    exact Ast.meaning_ordered f a ho.1 h
  | a :: b :: as, ho, _, _, h => by
    simp only [meaning.meaningAlt, bind_ok, Prod.exists] at h
    obtain ⟨r, g, hr, s, g', hs, h⟩ := h
    cases h
    exact ⟨Ast.meaning_ordered f a ho.1 hr, Ast.meaningAlt_ordered g (b :: as) ho.2 hs⟩

theorem Ast.meaningSeq_ordered (f : Flags) : (as : List Ast) → Ordered.list as →
    ∀ {r g}, meaning.meaningSeq f as = .ok (r, g) → Regex.Ordered r
  | [], _, _, _, h => by simp only [meaning.meaningSeq] at h; cases h; trivial
  | [a], ho, _, _, h => by
    simp only [meaning.meaningSeq] at h
    exact Ast.meaning_ordered f a ho.1 h
  | a :: b :: as, ho, _, _, h => by
    simp only [meaning.meaningSeq, bind_ok, Prod.exists] at h
    obtain ⟨r, g, hr, s, g', hs, h⟩ := h
    cases h
    exact ⟨Ast.meaning_ordered f a ho.1 hr, Ast.meaningSeq_ordered g (b :: as) ho.2 hs⟩

end

namespace Parser

/-! ## Bounds in levels and states -/

structure Level.Ordered (l : Level) : Prop where
  branches : ∀ a ∈ l.branches, a.Ordered
  items : ∀ a ∈ l.items, a.Ordered

structure State.Ordered (s : State) : Prop where
  level : s.level.Ordered
  outer : ∀ g ∈ s.groups, g.outer.Ordered

namespace Level.Ordered

variable {l : Level}

theorem push (h : l.Ordered) {a : Ast} (ha : a.Ordered) : (l.push a).Ordered :=
  ⟨h.branches, List.forall_mem_cons.2 ⟨ha, h.items⟩⟩

theorem branch (h : l.Ordered) (p : Nat) : (l.branch p).Ordered := by
  obtain ⟨_, _, _, is⟩ := l
  match is with
  | [] => simp [Level.branch, Ast.Ordered]
  | [a] => exact h.items a (List.mem_singleton.2 rfl)
  | a :: b :: is =>
    simp only [Level.branch, Ast.Ordered, Ast.list_ordered, List.mem_reverse]
    exact h.items

theorem nextBranch (h : l.Ordered) (p : Nat) : (l.nextBranch p).Ordered :=
  ⟨List.forall_mem_cons.2 ⟨h.branch p, h.branches⟩, nofun⟩

theorem toAst (h : l.Ordered) (p : Nat) : (l.toAst p).Ordered := by
  have hb := h.branch p
  have hbs := h.branches
  obtain ⟨_, bs, _, is⟩ := l
  match bs with
  | [] => exact hb
  | b :: bs =>
    simp only [Level.toAst, Ast.Ordered, Ast.list_ordered, List.mem_reverse]
    exact List.forall_mem_cons.2 ⟨hb, hbs⟩

end Level.Ordered

variable {s s' s₁ : State} {c c₁ d : Cursor}

theorem State.Ordered.init : State.init.Ordered := ⟨⟨nofun, nofun⟩, nofun⟩

theorem State.Ordered.replace (h : s.Ordered) {a b : Ast} {as : List Ast}
    (hi : s.level.items = a :: as) (hb : a.Ordered → b.Ordered) : (s.replace as b).Ordered := by
  have hl := h.level.items
  rw [hi, List.forall_mem_cons] at hl
  exact ⟨⟨h.level.branches, List.forall_mem_cons.2 ⟨hb hl.1, hl.2⟩⟩, h.outer⟩

theorem Steps.ordered (h : Steps s c s' d) (ho : s.Ordered) : s'.Ordered := by
  cases h with
  | flags => exact ⟨ho.level.push (by simp only [Ast.Ordered]), ho.outer⟩
  | enter => exact ⟨⟨nofun, nofun⟩, List.forall_mem_cons.2 ⟨ho.level, ho.outer⟩⟩
  | leave _ hg =>
    have hgs := ho.outer
    rw [hg, List.forall_mem_cons] at hgs
    refine ⟨hgs.1.push ?_, hgs.2⟩
    simp only [Ast.Ordered]
    exact ho.level.toAst c.pos
  | bar => exact ⟨ho.level.nextBranch c.pos, ho.outer⟩
  | cls _ ha =>
    obtain ⟨span, negated, body, rfl⟩ := Bracketed.run_bracketed ha
    exact ⟨ho.level.push (by simp only [Ast.Ordered]), ho.outer⟩
  | plain _ hk hi =>
    refine ho.replace hi fun ha => ?_
    simp only [Ast.Ordered]
    refine ⟨?_, ha⟩
    unfold plainOf at hk
    split at hk <;> cases hk <;> simp
  | counted _ hi _ _ hm =>
    refine ho.replace hi fun ha => ?_
    simp only [Ast.Ordered]
    exact ⟨hm, ha⟩
  | @symbol _ x =>
    refine ⟨ho.level.push ?_, ho.outer⟩
    cases x <;> simp only [Symbol.toAst, Ast.Ordered]

theorem Reaches.ordered (h : Reaches s c s₁ c₁) (ho : s.Ordered) : s₁.Ordered := by
  induction h with
  | refl => exact ho
  | step h _ ih => exact ih (h.ordered ho)

end Parser

/-- The bounds in a pattern that is accepted are in order. -/
theorem Parsed.ordered {text : List Char} {p : Parsed} (h : Parsed.ofText text = .ok p) :
    p.ast.Ordered := by
  obtain ⟨s, c, hc, -, -, hast⟩ := Ast.ofText_ok.1 (Parsed.ofText_ok.1 h).1
  exact hast ▸ (hc.ordered .init).level.toAst _

end UrlMask.Regex
