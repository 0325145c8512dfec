import Mathlib.Data.List.Nodup
import UrlMask.Json.Value
import UrlMask.Proofs.Text.Order

/-!
# The order of members

Members are kept in the order of their keys, and each key once. Members in this order are a map:
making members of them changes nothing.

* `Members.sorted_ofList`: what is made of a list is in order.
* `Members.mem_ofList_iff`: it has the members of the list, if each key is there once.
* `Members.get?_eq_some_iff`: the value of a key is that of its member.
* `Members.insert_erase`: it makes no difference what stands under a key that is set.
* `Members.ofList_eq_self`: members in order stay as they are.
* `Json.inOrder_eq_self`: so do values whose objects are in order.
-/
namespace UrlMask

namespace Members

variable {k : String} {v : Json} {m l : List (String × Json)}

/-- The key comes before the other. -/
def Before (k k' : String) : Prop := Text.precedes k.toList k'.toList = true

instance (k k' : String) : Decidable (Before k k') :=
  inferInstanceAs (Decidable (Text.precedes k.toList k'.toList = true))

/-- The members are in the order of their keys. -/
def Sorted (m : List (String × Json)) : Prop := m.Pairwise fun a b => Before a.1 b.1

theorem Before.trans {a b c : String} (h : Before a b) (h' : Before b c) : Before a c :=
  Text.precedes_trans h h'

theorem Before.ne {a b : String} (h : Before a b) : a ≠ b := by
  rintro rfl
  rw [Before, Text.precedes_irrefl] at h
  cases h

theorem Before.asymm {a b : String} (h : Before a b) : ¬ Before b a :=
  fun h' => (h.trans h').ne rfl

theorem before_of_not_before {a b : String} (hne : a ≠ b) (h : ¬ Before a b) : Before b a := by
  refine Decidable.byContradiction fun h' => hne ?_
  exact String.toList_inj.1
    (Text.eq_of_not_precedes (Bool.eq_false_iff.2 h) (Bool.eq_false_iff.2 h'))

theorem Sorted.nodup (h : Sorted m) : (m.map (·.1)).Nodup :=
  List.pairwise_map.2 (h.imp Before.ne)

theorem insert_cons (k' : String) (v' : Json) (m : Members) : insert k v ((k', v') :: m) =
    if k = k' then (k, v) :: m
    else if Before k k' then (k, v) :: (k', v') :: m
    else (k', v') :: insert k v m := rfl

theorem mem_insert {e : String × Json} (h : e ∈ insert k v m) : e = (k, v) ∨ e ∈ m := by
  induction m with
  | nil => exact Or.inl (List.mem_singleton.1 h)
  | cons d m ih =>
    rw [insert_cons] at h
    split at h
    · next hk =>
      rcases List.mem_cons.1 h with h | h
      · exact Or.inl h
      · exact Or.inr (List.mem_cons_of_mem _ h)
    · split at h
      · exact List.mem_cons.1 h
      · rcases List.mem_cons.1 h with rfl | h
        · exact Or.inr (List.mem_cons_self ..)
        · exact (ih h).imp_right (List.mem_cons_of_mem _)

theorem mem_insert_self (k : String) (v : Json) (m : Members) : (k, v) ∈ insert k v m := by
  induction m with
  | nil => exact List.mem_cons_self ..
  | cons d m ih =>
    rw [insert_cons]
    split
    · exact List.mem_cons_self ..
    · split
      · exact List.mem_cons_self ..
      · exact List.mem_cons_of_mem _ ih

/-- The members of other keys stay. -/
theorem mem_insert_of_ne {e : String × Json} (h : e ∈ m) (hk : e.1 ≠ k) : e ∈ insert k v m := by
  induction m with
  | nil => cases h
  | cons d m ih =>
    rw [insert_cons]
    split
    · next hd =>
      rcases List.mem_cons.1 h with rfl | h
      · exact absurd hd.symm hk
      · exact List.mem_cons_of_mem _ h
    · split
      · exact List.mem_cons_of_mem _ h
      · rcases List.mem_cons.1 h with rfl | h
        · exact List.mem_cons_self ..
        · exact List.mem_cons_of_mem _ (ih h)

theorem sorted_insert (h : Sorted m) : Sorted (insert k v m) := by
  induction m with
  | nil => exact List.pairwise_singleton ..
  | cons d m ih =>
    obtain ⟨k', v'⟩ := d
    obtain ⟨hfirst, hm⟩ := List.pairwise_cons.1 h
    rw [insert_cons]
    split
    · next hk =>
      subst hk
      exact List.pairwise_cons.2 ⟨hfirst, hm⟩
    · next hk =>
      split
      · next hb =>
        refine List.pairwise_cons.2 ⟨fun e he => ?_, h⟩
        rcases List.mem_cons.1 he with rfl | he
        · exact hb
        · exact hb.trans (hfirst e he)
      · next hb =>
        refine List.pairwise_cons.2 ⟨fun e he => ?_, ih hm⟩
        rcases mem_insert he with rfl | he
        · exact before_of_not_before hk hb
        · exact hfirst e he

theorem sorted_ofList (l : List (String × Json)) : Sorted (ofList l) := by
  suffices h : ∀ m, Sorted m → Sorted (l.foldl (fun m e => insert e.1 e.2 m) m) from h [] .nil
  induction l with
  | nil => exact fun m h => h
  | cons e l ih => exact fun m h => ih _ (sorted_insert h)

theorem mem_ofList {e : String × Json} (h : e ∈ ofList l) : e ∈ l := by
  suffices hs : ∀ m, e ∈ l.foldl (fun m e => insert e.1 e.2 m) m → e ∈ m ∨ e ∈ l from
    (hs [] h).resolve_left List.not_mem_nil
  clear h
  induction l with
  | nil => exact fun m h => Or.inl h
  | cons d l ih =>
    intro m h
    rcases ih _ h with h | h
    · rcases mem_insert h with rfl | h
      · exact Or.inr (List.mem_cons_self ..)
      · exact Or.inl h
    · exact Or.inr (List.mem_cons_of_mem _ h)

/-- Where each key is given once, nothing is lost. -/
theorem mem_ofList_iff {e : String × Json} (hl : (l.map (·.1)).Nodup) : e ∈ ofList l ↔ e ∈ l := by
  suffices hs : ∀ m, e ∈ m ∧ (∀ d ∈ l, d.1 ≠ e.1) ∨ e ∈ l →
      e ∈ l.foldl (fun m e => insert e.1 e.2 m) m from ⟨mem_ofList, fun h => hs [] (Or.inr h)⟩
  induction l with
  | nil =>
    intro m h
    exact (h.resolve_right List.not_mem_nil).1
  | cons d l ih =>
    obtain ⟨hd, hl⟩ := List.nodup_cons.1 hl
    intro m h
    refine ih hl _ ?_
    rcases h with ⟨hm, hne⟩ | h
    · obtain ⟨hde, hne⟩ := List.forall_mem_cons.1 hne
      exact Or.inl ⟨mem_insert_of_ne hm hde.symm, hne⟩
    · rcases List.mem_cons.1 h with rfl | h
      · refine Or.inl ⟨mem_insert_self .., fun d' hd' he => hd ?_⟩
        exact List.mem_map.2 ⟨d', hd', he⟩
      · exact Or.inr h

/-- The value of a key is that of its member, if each key is there once. -/
theorem get?_eq_some_iff (hm : (m.map (·.1)).Nodup) : get? m k = some v ↔ (k, v) ∈ m := by
  unfold get?
  rw [Option.map_eq_some_iff]
  constructor
  · rintro ⟨⟨k', v'⟩, hfind, rfl⟩
    have hk : k' = k := beq_iff_eq.1 (List.find?_some hfind :)
    rw [← hk]
    exact List.mem_of_find?_eq_some hfind
  · intro h
    cases hfind : m.find? (·.1 == k) with
    | none =>
      have := List.find?_eq_none.1 hfind _ h
      simp at this
    | some e =>
      have hk : e.1 = k := beq_iff_eq.1 (List.find?_some hfind :)
      have he := List.inj_on_of_nodup_map hm (List.mem_of_find?_eq_some hfind) h hk
      exact ⟨e, rfl, congrArg Prod.snd he⟩

/-- A key that comes before all others is added in front. -/
theorem insert_first (h : ∀ e ∈ m, Before k e.1) : insert k v m = (k, v) :: m := by
  cases m with
  | nil => rfl
  | cons d m =>
    have hd := h d (List.mem_cons_self ..)
    rw [insert_cons, if_neg hd.ne, if_pos hd]

/-- It makes no difference what stands under a key that is set. -/
theorem insert_erase (h : Sorted m) : insert k v (erase m k) = insert k v m := by
  induction m with
  | nil => rfl
  | cons d m ih =>
    obtain ⟨k', v'⟩ := d
    obtain ⟨hfirst, hm⟩ := List.pairwise_cons.1 h
    have hself (hk : ∀ e ∈ m, e.1 ≠ k) : erase m k = m :=
      List.filter_eq_self.2 fun e he => by simpa using hk e he
    by_cases hk : k = k'
    · subst hk
      have herase : erase ((k, v') :: m) k = m := by
        rw [erase, List.filter_cons_of_neg (by simp), ← erase]
        exact hself fun e he => (hfirst e he).ne.symm
      rw [herase, insert_first hfirst, insert_cons, if_pos rfl]
    · have herase : erase ((k', v') :: m) k = (k', v') :: erase m k := by
        rw [erase, List.filter_cons_of_pos (by simpa using Ne.symm hk), ← erase]
      rw [herase, insert_cons, insert_cons, if_neg hk, if_neg hk]
      by_cases hb : Before k k'
      · have hafter : ∀ e ∈ m, e.1 ≠ k := fun e he => (hb.trans (hfirst e he)).ne.symm
        rw [if_pos hb, if_pos hb, hself hafter]
      · rw [if_neg hb, if_neg hb, ih hm]

/-- A key that comes after all others is added at the end. -/
theorem insert_last (h : ∀ e ∈ m, Before e.1 k) : insert k v m = m ++ [(k, v)] := by
  induction m with
  | nil => rfl
  | cons d m ih =>
    obtain ⟨hd, hm⟩ := List.forall_mem_cons.1 h
    rw [insert_cons, if_neg hd.ne.symm, if_neg hd.asymm, ih hm]
    rfl

theorem ofList_eq_self (h : Sorted m) : ofList m = m := by
  suffices hs : ∀ l, Sorted (l ++ m) → m.foldl (fun m e => insert e.1 e.2 m) l = l ++ m from
    hs [] h
  clear h
  induction m with
  | nil => simp
  | cons e m ih =>
    intro l h
    have hlast : ∀ d ∈ l, Before d.1 e.1 := fun d hd =>
      (List.pairwise_append.1 h).2.2 d hd e (List.mem_cons_self ..)
    rw [List.foldl_cons, insert_last hlast, ih _ (by simpa using h)]
    simp

end Members

namespace Json

/-! ## Values -/

/-- Something holds of a value and of all values in it. -/
def All (p : Json → Prop) : Json → Prop
  | array l => p (array l) ∧ items l
  | object m => p (object m) ∧ members m
  | j => p j
where
  items : List Json → Prop
    | [] => True
    | j :: js => j.All p ∧ items js
  members : List (String × Json) → Prop
    | [] => True
    | (_, j) :: ms => j.All p ∧ members ms

section All

variable {p q r : Json → Prop}

theorem All.self {j : Json} (h : j.All p) : p j := by
  cases j <;> first | exact h | exact h.1

theorem all_items_iff {l : List Json} : All.items p l ↔ ∀ j ∈ l, j.All p := by
  induction l with
  | nil => simp [All.items]
  | cons j js ih => rw [All.items, ih, List.forall_mem_cons]

theorem all_members_iff {m : List (String × Json)} :
    All.members p m ↔ ∀ e ∈ m, e.2.All p := by
  induction m with
  | nil => simp [All.members]
  | cons e ms ih => rw [All.members, ih, List.forall_mem_cons]

mutual

/-- What follows from two things for each value follows for all of them. -/
theorem All.imp₂ (h : ∀ j, p j → q j → r j) : (j : Json) → j.All p → j.All q → j.All r
  | .null, hp, hq | .bool _, hp, hq | .integer _, hp, hq | .float _, hp, hq
  | .string _, hp, hq => h _ hp hq
  | .array l, hp, hq => ⟨h _ hp.1 hq.1, All.imp₂_items h l hp.2 hq.2⟩
  | .object m, hp, hq => ⟨h _ hp.1 hq.1, All.imp₂_members h m hp.2 hq.2⟩

theorem All.imp₂_items (h : ∀ j, p j → q j → r j) : (l : List Json) → All.items p l →
    All.items q l → All.items r l
  | [], _, _ => trivial
  | j :: js, hp, hq => ⟨All.imp₂ h j hp.1 hq.1, All.imp₂_items h js hp.2 hq.2⟩

theorem All.imp₂_members (h : ∀ j, p j → q j → r j) : (m : List (String × Json)) →
    All.members p m → All.members q m → All.members r m
  | [], _, _ => trivial
  | (_, j) :: ms, hp, hq => ⟨All.imp₂ h j hp.1 hq.1, All.imp₂_members h ms hp.2 hq.2⟩

end

end All

/-- The members of an object are in order. -/
def KeysSorted : Json → Prop
  | object m => Members.Sorted m
  | _ => True

/-- The value with its members in order. Of two with one key the later stays. -/
def inOrder : Json → Json
  | array l => .array (items l)
  | object m => .object (Members.ofList (members m))
  | j => j
where
  items : List Json → List Json
    | [] => []
    | j :: js => j.inOrder :: items js
  members : List (String × Json) → List (String × Json)
    | [] => []
    | (k, j) :: ms => (k, j.inOrder) :: members ms

mutual

theorem inOrder_eq_self : (j : Json) → j.All KeysSorted → j.inOrder = j
  | .null, _ | .bool _, _ | .integer _, _ | .float _, _ | .string _, _ => rfl
  | .array l, h => by
    rw [inOrder, inOrder_items l h.2]
  | .object m, h => by
    rw [inOrder, inOrder_members m h.2, Members.ofList_eq_self h.1]

theorem inOrder_items : (l : List Json) → All.items KeysSorted l → inOrder.items l = l
  | [], _ => rfl
  | j :: js, h => by
    rw [inOrder.items, inOrder_eq_self j h.1, inOrder_items js h.2]

theorem inOrder_members : (m : List (String × Json)) → All.members KeysSorted m →
    inOrder.members m = m
  | [], _ => rfl
  | (k, j) :: ms, h => by
    rw [inOrder.members, inOrder_eq_self j h.1, inOrder_members ms h.2]

end

end Json

end UrlMask
