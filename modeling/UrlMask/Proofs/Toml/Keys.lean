import Mathlib.Data.List.Nodup
import UrlMask.Toml.Parser

/-!
# What every document is like

However the tables of a document are put together, each key occurs once in its table. Integers fit
in 64 bits.

* `Sound`: what is said of a value here.
* `Node.sound_insertAt`, `Node.sound_place`: adding to a table keeps it so.
* `Reader.sound_value`: so are the values of entries.
* `sound_of_parse`: every document is of this kind.
-/
namespace UrlMask.Toml

/-- Every table in the value has each of its keys once, and every integer fits in 64 bits. -/
def Sound : Toml → Prop
  | integer n => -Nat.pow 2 63 ≤ n ∧ n < Nat.pow 2 63
  | array l => items l
  | table es => (es.map (·.1)).Nodup ∧ entries es
  | _ => True
where
  items : List Toml → Prop
    | [] => True
    | v :: vs => v.Sound ∧ items vs
  entries : List (String × Toml) → Prop
    | [] => True
    | (_, v) :: es => v.Sound ∧ entries es

theorem sound_items_iff {l : List Toml} : Sound.items l ↔ ∀ v ∈ l, v.Sound := by
  induction l with
  | nil => simp [Sound.items]
  | cons v vs ih => rw [Sound.items, ih, List.forall_mem_cons]

theorem sound_entries_iff {es : List (String × Toml)} :
    Sound.entries es ↔ ∀ e ∈ es, e.2.Sound := by
  induction es with
  | nil => simp [Sound.entries]
  | cons e es ih => rw [Sound.entries, ih, List.forall_mem_cons]

namespace Node

/-- The same for what is under construction. -/
def Sound : Node → Prop
  | value v => v.Sound
  | table _ es => (es.map (·.1)).Nodup ∧ entries es
  | tables l => items l
where
  entries : List (String × Node) → Prop
    | [] => True
    | (_, n) :: es => n.Sound ∧ entries es
  items : List Node → Prop
    | [] => True
    | n :: ns => n.Sound ∧ items ns

theorem sound_entries_iff {es : Entries} : Sound.entries es ↔ ∀ e ∈ es, e.2.Sound := by
  induction es with
  | nil => simp [Sound.entries]
  | cons e es ih => rw [Sound.entries, ih, List.forall_mem_cons]

theorem sound_items_iff {l : List Node} : Sound.items l ↔ ∀ n ∈ l, n.Sound := by
  induction l with
  | nil => simp [Sound.items]
  | cons n ns ih => rw [Sound.items, ih, List.forall_mem_cons]

/-- The entries of a table that is sound. -/
def SoundEntries (es : Entries) : Prop := (es.map (·.1)).Nodup ∧ ∀ e ∈ es, e.2.Sound

theorem sound_table_iff {o : Origin} {es : Entries} :
    (table o es).Sound ↔ SoundEntries es := by
  rw [Sound, sound_entries_iff, SoundEntries]

theorem soundEntries_nil : SoundEntries [] := ⟨List.nodup_nil, List.forall_mem_nil _⟩

section Entries

variable {k : String} {n : Node} {es : Entries}

theorem mem_of_lookup (h : lookup k es = some n) : ∃ e ∈ es, e.2 = n := by
  obtain ⟨e, he, hn⟩ := Option.map_eq_some_iff.1 h
  exact ⟨e, List.mem_of_find?_eq_some he, hn⟩

theorem not_mem_of_lookup (h : lookup k es = none) : k ∉ es.map (·.1) := by
  intro hk
  obtain ⟨e, he, rfl⟩ := List.mem_map.1 hk
  have := List.find?_eq_none.1 (Option.map_eq_none_iff.1 h) e he
  simp at this

theorem mem_update {e : String × Node} (h : e ∈ update k n es) : e = (k, n) ∨ e ∈ es := by
  induction es with
  | nil => exact Or.inl (List.mem_singleton.1 h)
  | cons d es ih =>
    rw [update] at h
    split at h
    · rcases List.mem_cons.1 h with h | h
      · exact Or.inl h
      · exact Or.inr (List.mem_cons_of_mem _ h)
    · rcases List.mem_cons.1 h with rfl | h
      · exact Or.inr (List.mem_cons_self ..)
      · exact (ih h).imp_right (List.mem_cons_of_mem _)

theorem nodup_update (h : (es.map (·.1)).Nodup) : ((update k n es).map (·.1)).Nodup := by
  induction es with
  | nil => exact List.nodup_singleton _
  | cons d es ih =>
    obtain ⟨hfresh, hes⟩ := List.nodup_cons.1 h
    rw [update]
    split
    · next hk => exact hk ▸ h
    · next hk =>
      refine List.nodup_cons.2 ⟨fun hd => ?_, ih hes⟩
      obtain ⟨e, he, hde⟩ := List.mem_map.1 hd
      rcases mem_update he with rfl | he
      · exact hk hde.symm
      · exact hfresh (List.mem_map.2 ⟨e, he, hde⟩)

theorem SoundEntries.update (h : SoundEntries es) (hn : n.Sound) :
    SoundEntries (update k n es) := by
  refine ⟨nodup_update h.1, fun e he => ?_⟩
  rcases mem_update he with rfl | he
  · exact hn
  · exact h.2 e he

theorem SoundEntries.append (h : SoundEntries es) (hk : lookup k es = none) (hn : n.Sound) :
    SoundEntries (es ++ [(k, n)]) := by
  constructor
  · rw [List.map_append, List.nodup_append]
    refine ⟨h.1, List.nodup_singleton _, fun a ha b hb => ?_⟩
    cases List.mem_singleton.1 hb
    rintro rfl
    exact not_mem_of_lookup hk ha
  · rw [List.forall_mem_append]
    exact ⟨h.2, List.forall_mem_singleton.2 hn⟩

theorem SoundEntries.lookup (h : SoundEntries es) (hn : lookup k es = some n) : n.Sound := by
  obtain ⟨e, he, rfl⟩ := mem_of_lookup hn
  exact h.2 e he

end Entries

/-- A step that keeps tables sound. -/
def Keeps (f : Entries → Option Entries) : Prop :=
  ∀ es es', SoundEntries es → f es = some es' → SoundEntries es'

theorem Keeps.mapLast {f : Entries → Option Entries} (hf : Keeps f) {l l' : List Node}
    (h : ∀ n ∈ l, n.Sound) (hl : mapLast f l = some l') : ∀ n ∈ l', n.Sound := by
  fun_induction Node.mapLast f l generalizing l' with
  | case1 => cases hl
  | case2 o es =>
    obtain ⟨es', he, rfl⟩ := Option.map_eq_some_iff.1 hl
    refine List.forall_mem_singleton.2 (sound_table_iff.2 (hf es es' ?_ he))
    exact sound_table_iff.1 (h _ (List.mem_singleton_self _))
  | case3 => cases hl
  | case4 n ns _ _ ih =>
    obtain ⟨ns', hns, rfl⟩ := Option.map_eq_some_iff.1 hl
    obtain ⟨hn, h⟩ := List.forall_mem_cons.1 h
    exact List.forall_mem_cons.2 ⟨hn, ih h hns⟩

/-- An entry is added to a table or to one inside it. -/
theorem keeps_insertAt {v : Toml} (hv : v.Sound) (ks : List String) (dotted first : Bool) :
    Keeps (insertAt v dotted first ks) := by
  induction ks generalizing dotted first with
  | nil =>
    intro es es' _ h
    cases h
  | cons k ks ih =>
    intro es es' hes h
    cases ks with
    | nil =>
      rw [insertAt] at h
      split at h
      · cases h
      · split at h
        · cases h
        · next hk =>
          cases h
          exact hes.append (by simpa using hk) hv
    | cons k' ks =>
      rw [insertAt] at h
      · split at h
        · next hk =>
          obtain ⟨t, ht, rfl⟩ := Option.map_eq_some_iff.1 h
          exact hes.append hk (sound_table_iff.2 (ih _ _ _ _ soundEntries_nil ht))
        · cases h
        · cases h
        · next o t hk =>
          obtain ⟨t', ht, rfl⟩ := Option.map_eq_some_iff.1 h
          exact hes.update (sound_table_iff.2 (ih _ _ _ _ (sound_table_iff.1 (hes.lookup hk)) ht))
        · next l hk =>
          obtain ⟨l', hl, rfl⟩ := Option.map_eq_some_iff.1 h
          exact hes.update
            (sound_items_iff.2 ((ih _ _).mapLast (sound_items_iff.1 (hes.lookup hk)) hl))
      · exact List.cons_ne_nil _ _

/-- Entries whose values are sound. -/
def SoundBody (body : List (List String × Toml)) : Prop := ∀ e ∈ body, e.2.Sound

theorem keeps_insertAll {body : List (List String × Toml)} (h : SoundBody body) :
    Keeps (insertAll body) := by
  induction body with
  | nil =>
    intro es es' hes h
    cases h
    exact hes
  | cons e body ih =>
    intro es es' hes he
    obtain ⟨hv, hbody⟩ := List.forall_mem_cons.1 h
    obtain ⟨es₁, h₁, h₂⟩ := Option.bind_eq_some_iff.1 he
    exact ih hbody es₁ es' (keeps_insertAt hv _ _ _ es es₁ hes h₁) h₂

/-- A change under one key that keeps what stands there sound. -/
def KeepsNode (put : Option Node → Option Node) : Prop :=
  ∀ o n, (∀ m ∈ o, m.Sound) → put o = some n → n.Sound

/-- What stands at the end of a path is changed. -/
theorem keeps_place {put : Option Node → Option Node} (hput : KeepsNode put) (ks : List String) :
    Keeps (place put ks) := by
  induction ks with
  | nil =>
    intro es es' _ h
    cases h
  | cons k ks ih =>
    intro es es' hes h
    cases ks with
    | nil =>
      obtain ⟨n, hn, rfl⟩ := Option.map_eq_some_iff.1 h
      exact hes.update (hput _ n (fun m hm => hes.lookup hm) hn)
    | cons k' ks =>
      rw [place] at h
      · split at h
        · obtain ⟨t, ht, rfl⟩ := Option.map_eq_some_iff.1 h
          exact hes.update (sound_table_iff.2 (ih _ _ soundEntries_nil ht))
        · cases h
        · next o t hk =>
          obtain ⟨t', ht, rfl⟩ := Option.map_eq_some_iff.1 h
          exact hes.update (sound_table_iff.2 (ih _ _ (sound_table_iff.1 (hes.lookup hk)) ht))
        · next l hk =>
          obtain ⟨l', hl, rfl⟩ := Option.map_eq_some_iff.1 h
          exact hes.update
            (sound_items_iff.2 (ih.mapLast (sound_items_iff.1 (hes.lookup hk)) hl))
      · exact List.cons_ne_nil _ _

section Headers

variable {body : List (List String × Toml)}

theorem keepsNode_opened (h : SoundBody body) : KeepsNode (opened body) := by
  intro o n ho hn
  unfold opened at hn
  split at hn
  · obtain ⟨es, he, rfl⟩ := Option.map_eq_some_iff.1 hn
    exact sound_table_iff.2 (keeps_insertAll h _ _ soundEntries_nil he)
  · next es =>
    obtain ⟨es', he, rfl⟩ := Option.map_eq_some_iff.1 hn
    exact sound_table_iff.2 (keeps_insertAll h _ _ (sound_table_iff.1 (ho _ rfl)) he)
  · cases hn

theorem keepsNode_extended (h : SoundBody body) : KeepsNode (extended body) := by
  intro o n ho hn
  unfold extended at hn
  split at hn
  · obtain ⟨es, he, rfl⟩ := Option.map_eq_some_iff.1 hn
    have hes := keeps_insertAll h _ _ soundEntries_nil he
    exact sound_items_iff.2 (List.forall_mem_singleton.2 (sound_table_iff.2 hes))
  · next l =>
    obtain ⟨es, he, rfl⟩ := Option.map_eq_some_iff.1 hn
    have hes := keeps_insertAll h _ _ soundEntries_nil he
    refine sound_items_iff.2 (List.forall_mem_append.2 ⟨sound_items_iff.1 (ho _ rfl), ?_⟩)
    exact List.forall_mem_singleton.2 (sound_table_iff.2 hes)
  · cases hn

end Headers

theorem map_fst_entries (es : Entries) : (toToml.entries es).map (·.1) = es.map (·.1) := by
  induction es with
  | nil => rfl
  | cons e es ih => rw [toToml.entries, List.map_cons, List.map_cons, ih]

mutual

theorem sound_toToml : (n : Node) → n.Sound → n.toToml.Sound
  | .value _, h => h
  | .table _ es, h => by
    rw [toToml, Toml.Sound, map_fst_entries]
    exact ⟨h.1, sound_toToml_entries es h.2⟩
  | .tables l, h => sound_toToml_items l h

theorem sound_toToml_entries : (es : List (String × Node)) → Sound.entries es →
    Toml.Sound.entries (toToml.entries es)
  | [], _ => trivial
  | (_, n) :: es, h => ⟨sound_toToml n h.1, sound_toToml_entries es h.2⟩

theorem sound_toToml_items : (l : List Node) → Sound.items l → Toml.Sound.items (toToml.items l)
  | [], _ => trivial
  | n :: ns, h => ⟨sound_toToml n h.1, sound_toToml_items ns h.2⟩

end

end Node

/-! ## Documents -/

theorem keeps_addSections {ss : List Section} (h : ∀ s ∈ ss, Node.SoundBody s.body) :
    Node.Keeps (addSections ss) := by
  induction ss with
  | nil =>
    intro es es' hes h
    cases h
    exact hes
  | cons s ss ih =>
    intro es es' hes he
    obtain ⟨hs, hss⟩ := List.forall_mem_cons.1 h
    obtain ⟨es₁, h₁, h₂⟩ := Option.bind_eq_some_iff.1 he
    refine ih hss es₁ es' ?_ h₂
    unfold Section.add at h₁
    split at h₁
    · exact Node.keeps_place (Node.keepsNode_opened hs) _ _ _ hes h₁
    · exact Node.keeps_place (Node.keepsNode_extended hs) _ _ _ hes h₁

theorem sound_assemble {body : List (List String × Toml)} {ss : List Section} {t : Toml}
    (hbody : Node.SoundBody body) (hss : ∀ s ∈ ss, Node.SoundBody s.body)
    (h : assemble body ss = some t) : t.Sound := by
  obtain ⟨es, he, h⟩ := Option.bind_eq_some_iff.1 h
  obtain ⟨es', he', rfl⟩ := Option.map_eq_some_iff.1 h
  refine Node.sound_toToml _ (Node.sound_table_iff.2 ?_)
  exact keeps_addSections hss _ _ (Node.keeps_insertAll hbody _ _ Node.soundEntries_nil he) he'

/-! ## Values -/

theorem Number.sound_integer {negative : Bool} {n : Nat} {v : Toml}
    (h : Number.integer? negative n = some v) : v.Sound := by
  have hpow : Nat.pow 2 63 = 9223372036854775808 := rfl
  unfold Number.integer? at h
  split at h <;> split at h <;> cases h
  · exact ⟨by omega, by omega⟩
  · exact ⟨by omega, by omega⟩

theorem Number.sound_float {negative : Bool} {ds : List Char} {e : Int} {v : Toml}
    (h : Number.float? negative ds e = some v) : v.Sound := by
  unfold Number.float? at h
  split at h
  · cases h
    trivial
  · split at h <;> cases h
    trivial

theorem Number.sound_read {s r : List Char} {v : Toml} (h : Number.read s = some (v, r)) :
    v.Sound := by
  have hbase {b : Nat} {p : Char → Bool} {s : List Char}
      (h : Number.inBase b p s = some (v, r)) : v.Sound := by
    obtain ⟨e, -, h⟩ := Option.bind_eq_some_iff.1 h
    obtain ⟨w, hw, h⟩ := Option.map_eq_some_iff.1 h
    cases h
    exact Number.sound_integer hw
  have hnamed {b : Bool} {s : List Char} (h : Number.named b s = some (v, r)) : v.Sound := by
    unfold Number.named at h
    split at h <;> cases h <;> trivial
  have hrest {b : Bool} {ds s : List Char} (h : Number.floatRest b ds s = some (v, r)) :
      v.Sound := by
    unfold Number.floatRest at h
    split at h
    · obtain ⟨e, -, h⟩ := Option.bind_eq_some_iff.1 h
      split at h <;> obtain ⟨w, hw, h⟩ := Option.map_eq_some_iff.1 h <;> cases h <;>
        exact Number.sound_float hw
    · obtain ⟨e, -, h⟩ := Option.bind_eq_some_iff.1 h
      obtain ⟨w, hw, h⟩ := Option.map_eq_some_iff.1 h
      cases h
      exact Number.sound_float hw
  unfold Number.read at h
  split at h
  · exact hbase h
  · exact hbase h
  · exact hbase h
  · dsimp only at h
    split at h
    · next hn =>
      cases h
      exact hnamed hn
    · obtain ⟨e, -, h⟩ := Option.bind_eq_some_iff.1 h
      split at h
      · exact hrest h
      · obtain ⟨w, hw, h⟩ := Option.map_eq_some_iff.1 h
        cases h
        exact Number.sound_integer hw

namespace Reader

theorem sound_scalar {s r : List Char} {v : Toml} (h : scalar s = some (v, r)) : v.Sound := by
  unfold scalar at h
  split at h
  · cases h
    trivial
  · exact Number.sound_read h

/-- What is read with so many steps is sound. -/
structure SoundSteps (fuel : Nat) : Prop where
  value : ∀ {depth s v r}, Reader.value fuel depth s = some (v, r) → v.Sound
  items : ∀ {depth s l r}, Reader.items fuel depth s = some (l, r) → ∀ v ∈ l, v.Sound
  inlineTable : ∀ {depth s body r}, Reader.inlineTable fuel depth s = some (body, r) →
    Node.SoundBody body
  inlineEntries : ∀ {depth s body r}, Reader.inlineEntries fuel depth s = some (body, r) →
    Node.SoundBody body
  entry : ∀ {depth s e r}, Reader.entry fuel depth s = some (e, r) → e.2.Sound

section Step

-- The equations of the five functions are derived here, once for the proofs of all steps.
attribute [local simp] Reader.value Reader.items Reader.inlineTable Reader.inlineEntries
  Reader.entry

variable {fuel depth : Nat} {s r : List Char}

theorem sound_value (ih : SoundSteps fuel) {v : Toml}
    (h : Reader.value (fuel + 1) depth s = some (v, r)) : v.Sound := by
  unfold Reader.value at h
  split at h
  · obtain ⟨t, -, h⟩ := Option.map_eq_some_iff.1 h
    cases h
    trivial
  · obtain ⟨t, -, h⟩ := Option.map_eq_some_iff.1 h
    cases h
    trivial
  · split at h
    · cases h
    · obtain ⟨e, he, h⟩ := Option.map_eq_some_iff.1 h
      cases h
      exact sound_items_iff.2 (ih.items he)
  · split at h
    · cases h
    · obtain ⟨e, he, h⟩ := Option.bind_eq_some_iff.1 h
      obtain ⟨es, hes, h⟩ := Option.map_eq_some_iff.1 h
      cases h
      refine Node.sound_toToml _ (Node.sound_table_iff.2 ?_)
      exact Node.keeps_insertAll (ih.inlineTable he) _ _ Node.soundEntries_nil hes
  · cases h
    trivial
  · cases h
    trivial
  · exact sound_scalar h

theorem sound_items (ih : SoundSteps fuel) {l : List Toml}
    (h : Reader.items (fuel + 1) depth s = some (l, r)) : ∀ v ∈ l, v.Sound := by
  rw [Reader.items] at h
  split at h
  · cases h
    exact List.forall_mem_nil _
  · split at h
    · cases h
    · next v r hv =>
      split at h
      · obtain ⟨e, he, h⟩ := Option.map_eq_some_iff.1 h
        cases h
        exact List.forall_mem_cons.2 ⟨ih.value hv, ih.items he⟩
      · cases h
        exact List.forall_mem_singleton.2 (ih.value hv)
      · cases h

theorem sound_inlineTable (ih : SoundSteps fuel) {body : List (List String × Toml)}
    (h : Reader.inlineTable (fuel + 1) depth s = some (body, r)) : Node.SoundBody body := by
  rw [Reader.inlineTable] at h
  split at h
  · cases h
    exact List.forall_mem_nil _
  · exact ih.inlineEntries h

theorem sound_inlineEntries (ih : SoundSteps fuel) {body : List (List String × Toml)}
    (h : Reader.inlineEntries (fuel + 1) depth s = some (body, r)) : Node.SoundBody body := by
  rw [Reader.inlineEntries] at h
  split at h
  · cases h
  · next e r he =>
    split at h
    · obtain ⟨es, hes, h⟩ := Option.map_eq_some_iff.1 h
      cases h
      exact List.forall_mem_cons.2 ⟨ih.entry he, ih.inlineEntries hes⟩
    · cases h
      exact List.forall_mem_singleton.2 (ih.entry he)
    · cases h

theorem sound_entry (ih : SoundSteps fuel) {e : List String × Toml}
    (h : Reader.entry (fuel + 1) depth s = some (e, r)) : e.2.Sound := by
  rw [Reader.entry] at h
  split at h
  · split at h
    · next hv =>
      cases h
      exact ih.value hv
    · cases h
  · cases h

end Step

theorem soundSteps : (fuel : Nat) → SoundSteps fuel
  | 0 => by
    constructor <;> intro _ _ _ _ h <;>
      simp [Reader.value, Reader.items, Reader.inlineTable, Reader.inlineEntries,
        Reader.entry] at h
  | fuel + 1 =>
    have ih := soundSteps fuel
    ⟨sound_value ih, sound_items ih, sound_inlineTable ih, sound_inlineEntries ih, sound_entry ih⟩

theorem sound_lines {fuel : Nat} {s : List Char} {l : Lines} (h : lines fuel s = some l) :
    Node.SoundBody l.1 ∧ ∀ t ∈ l.2, Node.SoundBody t.body := by
  induction fuel generalizing s l with
  | zero => cases h
  | succ fuel ih =>
    rw [lines] at h
    split at h
    · cases h
      exact ⟨List.forall_mem_nil _, List.forall_mem_nil _⟩
    · split at h
      · cases h
      · obtain ⟨l, hl, rfl⟩ := Option.map_eq_some_iff.1 h
        obtain ⟨hbody, hss⟩ := ih hl
        exact ⟨List.forall_mem_nil _, List.forall_mem_cons.2 ⟨hbody, hss⟩⟩
    · split at h
      · obtain ⟨r, -, h⟩ := Option.bind_eq_some_iff.1 h
        exact ih h
      · split at h
        · cases h
        · next e r he =>
          obtain ⟨l, hl, rfl⟩ := Option.map_eq_some_iff.1 h
          obtain ⟨hbody, hss⟩ := ih hl
          obtain ⟨e', he', h⟩ := Option.bind_eq_some_iff.1 he
          obtain ⟨r', -, h⟩ := Option.map_eq_some_iff.1 h
          cases h
          exact ⟨List.forall_mem_cons.2 ⟨(soundSteps _).entry he', hbody⟩, hss⟩

end Reader

/-- In a document every table has each of its keys once. -/
theorem sound_of_parse {text : List Char} {t : Toml} (h : parse? text = some t) : t.Sound := by
  obtain ⟨l, hl, h⟩ := Option.bind_eq_some_iff.1 h
  obtain ⟨hbody, hss⟩ := Reader.sound_lines hl
  exact sound_assemble hbody hss h

end UrlMask.Toml
