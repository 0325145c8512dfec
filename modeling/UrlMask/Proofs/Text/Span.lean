import Mathlib.Data.List.DropRight
import Mathlib.Data.List.Forall2

/-!
# Spans of lists, and steps that can fail

* `takeWhile_append_stop`, `dropWhile_append_stop`: a span of characters ends where the test first
  fails.
* `rdropWhile_eq_self_iff`, `last_of_rdropWhile`: nothing is dropped from the end where the last
  element fails the test.
* `cons_of_rdropWhile`: the first element that is left was the first.
* `exists_of_mem_mapM`, `mapM_eq_map`: what a list is mapped to, where each element may fail.
* `exists_partner`, `exists_partner_at`: lists that go together, element by element.
* `cases_of_map_eq`: lists with one image are told apart by the same cases.
* `mapM_ok_iff`, `mapM_error_iff`: a list is mapped where every element is, or else the first
  element that fails decides.
* `foldlM_keyed`: entries with different keys, taken one after the other.
* `bind_ok`, `guard_ok`: two steps succeed if each of them does, and a step behind a test if the
  test does not stop it.
-/
namespace UrlMask

theorem bind_ok {ε α β : Type} {x : Except ε α} {f : α → Except ε β} {b : β} :
    (x >>= f) = .ok b ↔ ∃ a, x = .ok a ∧ f a = .ok b := by
  cases x <;> simp [bind, Except.bind]

theorem error_bind {ε α β : Type} {e : ε} {f : α → Except ε β} :
    (Except.error e >>= f) = .error e := rfl

theorem guard_ok {ε α : Type} {p : Prop} [Decidable p] {e : ε} {x : Except ε α} {a : α} :
    (if p then .error e else x) = .ok a ↔ ¬ p ∧ x = .ok a := by
  split <;> simp [*]

theorem map_ok {ε α β : Type} {x : Except ε α} {f : α → β} {b : β} :
    x.map f = .ok b ↔ ∃ a, x = .ok a ∧ f a = b := by
  cases x <;> simp [Except.map]

theorem map_error {ε α β : Type} {x : Except ε α} {f : α → β} {e : ε} :
    x.map f = .error e ↔ x = .error e := by
  cases x <;> simp [Except.map]

theorem exists_map_ok {ε α β : Type} {x : Except ε α} {f : α → β} :
    (∃ b, x.map f = .ok b) ↔ ∃ a, x = .ok a := by
  cases x <;> simp [Except.map]

namespace Span

section Stop

variable {α : Type} {p : α → Bool} {s rest : List α}

theorem takeWhile_append_stop (hs : ∀ c ∈ s, p c = true) (hr : ∀ c ∈ rest.head?, p c = false) :
    (s ++ rest).takeWhile p = s := by
  rw [List.takeWhile_append_of_pos hs]
  cases rest with
  | nil => simp
  | cons c r => simp [hr c (by simp)]

theorem dropWhile_append_stop (hs : ∀ c ∈ s, p c = true) (hr : ∀ c ∈ rest.head?, p c = false) :
    (s ++ rest).dropWhile p = rest := by
  rw [List.dropWhile_append_of_pos hs]
  cases rest with
  | nil => simp
  | cons c r => simp [hr c (by simp)]

end Stop

section Back

variable {α : Type} {p : α → Bool} {l : List α}

theorem rdropWhile_eq_self_iff : l.rdropWhile p = l ↔ ∀ a, l.getLast? = some a → p a = false := by
  rcases List.eq_nil_or_concat' l with rfl | ⟨l, b, rfl⟩
  · simp
  · rw [List.rdropWhile_eq_self_iff]
    simp

theorem last_of_rdropWhile {a : α} (h : (l.rdropWhile p).getLast? = some a) : p a = false :=
  rdropWhile_eq_self_iff.1 (List.rdropWhile_idempotent p l) a h

/-- What is left begins as the list does. -/
theorem cons_of_rdropWhile {a : α} {r : List α} (h : l.rdropWhile p = a :: r) :
    ∃ q, l = a :: q := by
  obtain ⟨q, hq⟩ := List.rdropWhile_prefix p l
  rw [h] at hq
  exact ⟨r ++ q, hq.symm⟩

end Back

section MapM

variable {α β : Type} {f : α → Option β}

/-- Every value comes from an element. -/
theorem exists_of_mem_mapM {xs : List α} {ys : List β} (h : xs.mapM f = some ys) :
    ∀ y ∈ ys, ∃ x ∈ xs, f x = some y := by
  induction xs generalizing ys with
  | nil =>
    cases h
    simp
  | cons x xs ih =>
    rw [List.mapM_cons] at h
    obtain ⟨z, hz, h⟩ := Option.bind_eq_some_iff.1 h
    obtain ⟨zs, hzs, h⟩ := Option.bind_eq_some_iff.1 h
    cases h
    intro y hy
    rcases List.mem_cons.1 hy with rfl | hy
    · exact ⟨x, by simp, hz⟩
    · obtain ⟨x', hx', hf⟩ := ih hzs y hy
      exact ⟨x', by simp [hx'], hf⟩

/-- Where no element fails, the list is mapped. -/
theorem mapM_eq_map {g : α → β} {xs : List α} (h : ∀ x ∈ xs, f x = some (g x)) :
    xs.mapM f = some (xs.map g) := by
  induction xs with
  | nil => rfl
  | cons x xs ih =>
    rw [List.mapM_cons, h x (by simp), ih fun y hy => h y (by simp [hy])]
    rfl

end MapM

section Pairs

variable {α β : Type} {r : α → β → Prop} {xs : List α} {ys : List β}

/-- Lists with one image are both empty, or of one element, or longer. -/
theorem cases_of_map_eq {f : α → β} {l l' : List α} (h : l'.map f = l.map f) :
    (l = [] ∧ l' = []) ∨ (∃ a a', l = [a] ∧ l' = [a'] ∧ f a' = f a) ∨
      ∃ a b r a' b' r', l = a :: b :: r ∧ l' = a' :: b' :: r' := by
  have hlen : l'.length = l.length := by simpa using congrArg List.length h
  match l, l' with
  | [], [] => exact Or.inl ⟨rfl, rfl⟩
  | [a], [a'] => exact Or.inr (Or.inl ⟨a, a', rfl, rfl, (List.cons.inj h).1⟩)
  | a :: b :: r, a' :: b' :: r' => exact Or.inr (Or.inr ⟨a, b, r, a', b', r', rfl, rfl⟩)
  | [], _ :: _ | [_], [] | _ :: _ :: _, [] => cases hlen
  | [_], _ :: _ :: _ | _ :: _ :: _, [_] => simp at hlen

/-- In lists that go together, every element has its partner. -/
theorem exists_partner (h : List.Forall₂ r xs ys) {y : β} (hy : y ∈ ys) : ∃ x ∈ xs, r x y := by
  induction h with
  | nil => cases hy
  | @cons x y' xs ys hr _ ih =>
    rcases List.mem_cons.1 hy with rfl | hy
    · exact ⟨x, List.mem_cons_self .., hr⟩
    · obtain ⟨x', hx', hr'⟩ := ih hy
      exact ⟨x', List.mem_cons_of_mem _ hx', hr'⟩

theorem exists_partner_at (h : List.Forall₂ r xs ys) {i : Nat} {x : α} (hx : xs[i]? = some x) :
    ∃ y, ys[i]? = some y ∧ r x y := by
  induction h generalizing i with
  | nil => cases hx
  | @cons x' y xs ys hr _ ih =>
    cases i with
    | zero =>
      cases hx
      exact ⟨y, rfl, hr⟩
    | succ i => exact ih hx

end Pairs

section Except

variable {ε α β : Type} {f : α → Except ε β} {xs : List α}

/-- A list is mapped where every element is. -/
theorem mapM_ok_iff {ys : List β} :
    xs.mapM f = .ok ys ↔ List.Forall₂ (fun x y => f x = .ok y) xs ys := by
  induction xs generalizing ys with
  | nil =>
    rw [List.mapM_nil, List.forall₂_nil_left_iff]
    exact ⟨fun h => by cases h; rfl, fun h => h ▸ rfl⟩
  | cons x xs ih =>
    rw [List.mapM_cons, bind_ok, List.forall₂_cons_left_iff]
    constructor
    · rintro ⟨y, hy, h⟩
      obtain ⟨ys, hys, h⟩ := bind_ok.1 h
      cases h
      exact ⟨y, ys, hy, ih.1 hys, rfl⟩
    · rintro ⟨y, ys, hy, hys, rfl⟩
      exact ⟨y, hy, bind_ok.2 ⟨ys, ih.2 hys, rfl⟩⟩

/-- Otherwise the first element that fails decides. -/
theorem mapM_error_iff {e : ε} : xs.mapM f = .error e ↔ ∃ l x r, xs = l ++ x :: r ∧
    (∀ a ∈ l, ∃ y, f a = .ok y) ∧ f x = .error e := by
  induction xs with
  | nil => simp [pure, Except.pure]
  | cons x xs ih =>
    rw [List.mapM_cons]
    constructor
    · intro h
      cases hx : f x with
      | error e' =>
        rw [hx] at h
        cases h
        exact ⟨[], x, xs, rfl, nofun, hx⟩
      | ok y =>
        rw [hx] at h
        cases hm : xs.mapM f with
        | ok ys =>
          rw [hm] at h
          cases h
        | error e' =>
          rw [hm] at h
          cases h
          obtain ⟨l, x', r, rfl, hl, hf⟩ := ih.1 hm
          exact ⟨x :: l, x', r, rfl, List.forall_mem_cons.2 ⟨⟨y, hx⟩, hl⟩, hf⟩
    · rintro ⟨_ | ⟨a, l⟩, x', r, he, hl, hf⟩
      · cases he
        rw [hf]
        rfl
      · cases he
        obtain ⟨⟨y, hy⟩, hl⟩ := List.forall_mem_cons.1 hl
        rw [hy, ih.2 ⟨l, x', r, rfl, hl, hf⟩]
        rfl

end Except

section Keyed

variable {ε α β σ : Type} {f : σ → String × α → Except ε σ} {k : String}
  {es : List (String × α)} {s s' : σ}

/-- Entries are taken one after the other, and each key occurs once. Then what is seen of the result
is what the entry of one key means, or what was seen at the start if there is no such entry. -/
theorem foldlM_keyed (view : σ → β) (means : α → β → Prop)
    (hset : ∀ s v s', f s (k, v) = .ok s' → means v (view s'))
    (hskip : ∀ s e s', e.1 ≠ k → f s e = .ok s' → view s' = view s)
    (hes : (es.map (·.1)).Nodup) (h : es.foldlM f s = .ok s') :
    (∀ v, (k, v) ∈ es → means v (view s')) ∧ ((∀ v, (k, v) ∉ es) → view s' = view s) := by
  induction es generalizing s with
  | nil =>
    cases h
    exact ⟨nofun, fun _ => rfl⟩
  | cons e es ih =>
    rw [List.foldlM_cons] at h
    obtain ⟨s₁, h₁, h⟩ := bind_ok.1 h
    obtain ⟨hfresh, hes⟩ := List.nodup_cons.1 hes
    obtain ⟨hin, hout⟩ := ih hes h
    obtain ⟨k', v'⟩ := e
    by_cases hk : k' = k
    · subst hk
      have hno (v : α) : (k', v) ∉ es := fun hv => hfresh (List.mem_map.2 ⟨_, hv, rfl⟩)
      constructor
      · intro v hv
        rcases List.mem_cons.1 hv with hv | hv
        · cases hv
          exact hout hno ▸ hset _ _ _ h₁
        · exact absurd hv (hno v)
      · exact fun hno => absurd (List.mem_cons_self ..) (hno v')
    · constructor
      · intro v hv
        rcases List.mem_cons.1 hv with hv | hv
        · cases hv
          exact absurd rfl hk
        · exact hin v hv
      · intro hno
        rw [hout fun v hv => hno v (List.mem_cons_of_mem _ hv), hskip s _ s₁ hk h₁]

end Keyed

end Span

end UrlMask
