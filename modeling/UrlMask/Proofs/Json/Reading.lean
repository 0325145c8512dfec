import UrlMask.Proofs.Json.Scalar
import UrlMask.Proofs.Json.Style

/-!
# Values are read back

What is written for a value is read as this value with its members in order, in either way of
writing, as long as it is not nested too deep for the reader. Otherwise it is refused for this and
for nothing else.

* `height`: how deep a value is nested.
* `value_laid`: the reader on a value somewhere in a text.
* `parse_laid`: the reader on the text of a value.
-/
namespace UrlMask.Json

open Reader

/-- How deep the brackets of a value are nested. -/
def height : Json → Nat
  | array l => items l + 1
  | object m => members m + 1
  | _ => 0
where
  items : List Json → Nat
    | [] => 0
    | j :: js => max j.height (items js)
  members : List (String × Json) → Nat
    | [] => 0
    | (_, j) :: ms => max j.height (members ms)

/-- The value is no floating-point number and no integer beyond 64 bits. -/
def Exact : Json → Prop
  | float _ => False
  | integer n => -Nat.pow 2 63 ≤ n ∧ n < Nat.pow 2 64
  | _ => True

/-- The value is no floating-point number. -/
def NotFloat : Json → Prop
  | float _ => False
  | _ => True

/-- What holds of all values that there are: integers fit in 64 bits, and members are in order. -/
def Proper : Json → Prop
  | integer n => -Nat.pow 2 63 ≤ n ∧ n < Nat.pow 2 64
  | object m => Members.Sorted m
  | _ => True

theorem Proper.exact {j : Json} (h : j.Proper) (hf : j.NotFloat) : j.Exact := by
  cases j <;> trivial

theorem Proper.keysSorted {j : Json} (h : j.Proper) : j.KeysSorted := by
  cases j <;> trivial

/-- What reading comes to: this result, and the rest of the text, if it fits; else the fault that it
is nested too deep. -/
def Gives {α : Type} (fits : Prop) (a : α) (rest : List Char) (r : Except Fault (α × Cursor)) :
    Prop :=
  (fits → ∃ p, r = .ok (a, ⟨p, rest⟩)) ∧ (¬ fits → ∃ p, r = .error ⟨.tooDeep, p⟩)

namespace Gives

variable {α β γ : Type} {fits fits' : Prop} {a : α} {b : β} {rest t : List Char}
  {r : Except Fault (α × Cursor)}

theorem of_ok {p : Place} (h : fits) (hr : r = .ok (a, ⟨p, rest⟩)) : Gives fits a rest r :=
  ⟨fun _ => ⟨p, hr⟩, fun h' => absurd h h'⟩

theorem congr (h : fits ↔ fits') (hg : Gives fits a rest r) : Gives fits' a rest r :=
  ⟨fun h' => hg.1 (h.2 h'), fun h' => hg.2 fun h'' => h' (h.1 h'')⟩

theorem map (f : α → β) (hg : Gives fits a rest r) :
    Gives fits (f a) rest (r.map fun x => (f x.1, x.2)) := by
  constructor
  · intro h
    obtain ⟨p, rfl⟩ := hg.1 h
    exact ⟨p, rfl⟩
  · intro h
    obtain ⟨p, rfl⟩ := hg.2 h
    exact ⟨p, rfl⟩

/-- What is read one after the other. -/
theorem bind {g : Cursor → Except Fault (β × Cursor)} (f : α → β → γ) (hg : Gives fits a t r)
    (hn : ∀ p, Gives fits' b rest (g ⟨p, t⟩)) :
    Gives (fits ∧ fits') (f a b) rest
      (r.bind fun x => (g x.2).map fun y => (f x.1 y.1, y.2)) := by
  by_cases h : fits
  · obtain ⟨p, rfl⟩ := hg.1 h
    refine ((hn p).map (f a)).congr ?_
    simp [h]
  · obtain ⟨p, rfl⟩ := hg.2 h
    exact ⟨fun h' => absurd h'.1 h, fun _ => ⟨p, rfl⟩⟩

end Gives

/-- A value begins here. -/
def Begins (t : List Char) : Prop :=
  ∃ c r, t = c :: r ∧ Cursor.isBlank c = false ∧ c ≠ ']'

theorem Begins.append {t : List Char} (h : Begins t) (u : List Char) : Begins (t ++ u) := by
  obtain ⟨c, r, rfl, hc⟩ := h
  exact ⟨c, r ++ u, rfl, hc⟩

/-- Blanks before a value are passed over. -/
theorem Begins.skip {t b : List Char} (h : Begins t) (hb : ∀ c ∈ b, Cursor.isBlank c = true)
    (p : Place) : ∃ p', Cursor.skip ⟨p, b ++ t⟩ = ⟨p', t⟩ := by
  obtain ⟨c, r, rfl, hc, -⟩ := h
  exact skip_append hb hc p r

theorem Begins.skip_self {t : List Char} (h : Begins t) (p : Place) :
    Cursor.skip ⟨p, t⟩ = ⟨p, t⟩ := by
  obtain ⟨c, r, rfl, hc, -⟩ := h
  exact Json.skip_self hc p r

/-! ## Steps of the reader -/

section Steps

-- The equations of the three functions are derived here, once for the proofs of all steps.
attribute [local simp] value items members

variable {fuel depth : Nat} {c : Cursor} {p p' : Place} {ch : Char} {t u : List Char}

theorem value_array (h : c.skip = ⟨p, '[' :: t⟩) (hd : depth + 1 < depthLimit) :
    value (fuel + 1) depth c =
      (items fuel (depth + 1) true ⟨p.after '[', t⟩).map fun x => (.array x.1, x.2) := by
  simp only [value, h, Cursor.peek, List.head?_cons, Cursor.advance, if_neg (Nat.not_le_of_lt hd)]
  cases items fuel (depth + 1) true ⟨p.after '[', t⟩ <;> rfl

theorem value_object (h : c.skip = ⟨p, '\x7b' :: t⟩) (hd : depth + 1 < depthLimit) :
    value (fuel + 1) depth c = (members fuel (depth + 1) true ⟨p.after '\x7b', t⟩).map
      fun x => (.object (Members.ofList x.1), x.2) := by
  simp only [value, h, Cursor.peek, List.head?_cons, Cursor.advance, if_neg (Nat.not_le_of_lt hd)]
  cases members fuel (depth + 1) true ⟨p.after '\x7b', t⟩ <;> rfl

/-- A bracket at the limit is too deep. -/
theorem value_tooDeep (h : c.skip = ⟨p, ch :: t⟩) (hch : ch = '[' ∨ ch = '\x7b')
    (hd : depthLimit ≤ depth + 1) : ∃ q, value (fuel + 1) depth c = .error ⟨.tooDeep, q⟩ := by
  refine ⟨Cursor.blame ⟨p, ch :: t⟩, ?_⟩
  rcases hch with rfl | rfl <;> simp only [value, h, Cursor.peek, List.head?_cons, if_pos hd]

/-- A digit begins a number. -/
theorem value_digit (h : c.skip = ⟨p, ch :: t⟩) (hch : ch.isDigit = true) :
    value (fuel + 1) depth c = Number.read false ⟨p, ch :: t⟩ := by
  simp only [value, h, Cursor.peek, List.head?_cons]
  split
  all_goals first | exact absurd hch (by decide) | exact if_pos hch

theorem items_end {first : Bool} (h : c.skip = ⟨p, ']' :: t⟩) :
    items (fuel + 1) depth first c = .ok ([], ⟨p.after ']', t⟩) := by
  simp [h, Cursor.peek, Cursor.advance]

theorem items_first (h : c.skip = ⟨p, t⟩) (ht : Begins t) :
    items (fuel + 1) depth true c = (value fuel depth ⟨p, t⟩).bind fun x =>
      (items fuel depth false x.2).map fun y => (x.1 :: y.1, y.2) := by
  obtain ⟨ch, r, rfl, -, hch⟩ := ht
  simp only [items, h, Cursor.peek, List.head?_cons, if_neg hch, if_true]
  cases value fuel depth ⟨p, ch :: r⟩ with
  | error e => rfl
  | ok x =>
    simp only [Except.bind]
    cases items fuel depth false x.2 <;> rfl

theorem items_next (h : c.skip = ⟨p, ',' :: t⟩) (h' : Cursor.skip ⟨p.after ',', t⟩ = ⟨p', u⟩)
    (hu : Begins u) :
    items (fuel + 1) depth false c = (value fuel depth ⟨p', u⟩).bind fun x =>
      (items fuel depth false x.2).map fun y => (x.1 :: y.1, y.2) := by
  obtain ⟨ch, r, rfl, -, hch⟩ := hu
  simp only [items, h, h', Cursor.peek, Cursor.advance, List.head?_cons, if_neg hch, if_true,
    if_neg (show ¬ ',' = ']' by decide), Bool.false_eq_true, if_false]
  cases value fuel depth ⟨p', ch :: r⟩ with
  | error e => rfl
  | ok x =>
    simp only [Except.bind]
    cases items fuel depth false x.2 <;> rfl

theorem members_end {first : Bool} (h : c.skip = ⟨p, '\x7d' :: t⟩) :
    members (fuel + 1) depth first c = .ok ([], ⟨p.after '\x7d', t⟩) := by
  simp [h, Cursor.peek, Cursor.advance]

/-- Reads a member whose key has been read up to its closing quotation mark. -/
theorem members_first {k : List Char} {c' : Cursor} (h : c.skip = ⟨p, '"' :: t⟩)
    (hk : Reader.string (t.length + 1) ⟨p.after '"', t⟩ = .ok (k, c')) (hc : c'.skip = ⟨p', ':' :: u⟩) :
    members (fuel + 1) depth true c = (value fuel depth ⟨p'.after ':', u⟩).bind fun x =>
      (members fuel depth false x.2).map fun y => ((String.ofList k, x.1) :: y.1, y.2) := by
  simp only [members, h, hk, hc, Cursor.peek, Cursor.advance, List.head?_cons, List.length_cons,
    if_neg (show ¬ '"' = '\x7d' by decide), if_true]
  cases value fuel depth ⟨p'.after ':', u⟩ with
  | error e => rfl
  | ok x =>
    simp only [Except.bind]
    cases members fuel depth false x.2 <;> rfl

theorem members_next {k : List Char} {c' : Cursor} {q : Place} (h : c.skip = ⟨p, ',' :: t⟩)
    (h' : Cursor.skip ⟨p.after ',', t⟩ = ⟨q, '"' :: u⟩)
    (hk : Reader.string (u.length + 1) ⟨q.after '"', u⟩ = .ok (k, c')) {w : List Char}
    (hc : c'.skip = ⟨p', ':' :: w⟩) :
    members (fuel + 1) depth false c = (value fuel depth ⟨p'.after ':', w⟩).bind fun x =>
      (members fuel depth false x.2).map fun y => ((String.ofList k, x.1) :: y.1, y.2) := by
  simp only [members, h, h', hk, hc, Cursor.peek, Cursor.advance, List.head?_cons, List.length_cons,
    if_neg (show ¬ ',' = '\x7d' by decide), if_true, Bool.false_eq_true, if_false]
  cases value fuel depth ⟨p'.after ':', w⟩ with
  | error e => rfl
  | ok x =>
    simp only [Except.bind]
    cases members fuel depth false x.2 <;> rfl

end Steps

/-! ## Scalars -/

/-- The values that are neither arrays nor objects. -/
def IsScalar : Json → Prop
  | array _ | object _ => False
  | _ => True

theorem value_integer {n : Int} (hn : (integer n).Exact) {rest : List Char} (hr : Follows rest)
    {c : Cursor} {p : Place} (h : c.skip = ⟨p, integerText n ++ rest⟩) (fuel depth : Nat) :
    ∃ p', value (fuel + 1) depth c = .ok (.integer n, ⟨p', rest⟩) := by
  obtain ⟨hlow, hhigh⟩ := hn
  have habs : n.natAbs < Number.wordBound := by
    simp only [Nat.pow_eq] at hlow hhigh
    simp only [Number.wordBound, Nat.pow_eq]
    omega
  unfold integerText at h
  split at h
  · next hneg =>
    obtain ⟨p', hp⟩ := read_decimalDigits habs hr true (p.after '-')
    rw [integer_of_neg hneg hlow] at hp
    refine ⟨p', ?_⟩
    simp only [value, h, Cursor.peek, List.cons_append, List.head?_cons, Cursor.advance, hp]
  · next hneg =>
    obtain ⟨p', hp⟩ := read_decimalDigits habs hr false p
    rw [integer_of_nonneg (by omega)] at hp
    obtain ⟨d, ds, hds⟩ :=
      List.exists_cons_of_ne_nil (Nat.toDigits_ne_nil (n := n.natAbs) (b := 10))
    have hd : d.isDigit = true := isDigit_of_mem (n := n.natAbs) (by simp [decimalDigits, hds])
    rw [decimalDigits, hds, List.cons_append] at h hp
    exact ⟨p', (value_digit h hd).trans hp⟩

/-- What is written for such a value is read back. -/
theorem value_scalar {j : Json} (hj : j.IsScalar) (he : j.Exact) {rest : List Char}
    (hr : Follows rest) {c : Cursor} {p : Place} (h : c.skip = ⟨p, j.scalar ++ rest⟩)
    (fuel depth : Nat) : ∃ p', value (fuel + 1) depth c = .ok (j, ⟨p', rest⟩) := by
  cases j with
  | null => exact ⟨_, by simp only [value, h, scalar]; rfl⟩
  | bool b => cases b <;> exact ⟨_, by simp only [value, h, scalar]; rfl⟩
  | integer n => exact value_integer he hr h fuel depth
  | float x => exact he.elim
  | string s =>
    have hlt : (s.toList.flatMap escape).length < (quoted s.toList ++ rest).length := by
      simp only [quoted, List.length_append, List.length_cons]
      omega
    obtain ⟨p', hp⟩ := string_quoted s.toList hlt (p.after '"') rest
    refine ⟨p', ?_⟩
    have : quoted s.toList ++ rest = '"' :: (s.toList.flatMap escape ++ '"' :: rest) := by
      simp [quoted]
    simp only [value, h, scalar, this, Cursor.peek, List.head?_cons, Cursor.advance] at hp ⊢
    rw [hp]
    simp
  | array l => exact hj.elim
  | object m => exact hj.elim

/-! ## Values -/

section Values

variable {s : Style} {fuel depth h : Nat} {rest t : List Char} {c : Cursor} {p : Place}

theorem begins_laid {j : Json} (hj : j.Exact) (n : Nat) : Begins (j.laid s n) := by
  cases j with
  | integer k =>
    simp only [laid, scalar, integerText]
    split
    · exact ⟨_, _, rfl, by decide, by decide⟩
    · obtain ⟨d, ds, hds⟩ :=
        List.exists_cons_of_ne_nil (Nat.toDigits_ne_nil (n := k.natAbs) (b := 10))
      have hd : d.isDigit = true := isDigit_of_mem (n := k.natAbs) (by simp [decimalDigits, hds])
      refine ⟨d, ds, hds, ?_, ?_⟩
      · simp only [Cursor.isBlank, Bool.or_eq_false_iff, beq_eq_false_iff_ne]
        refine ⟨⟨⟨?_, ?_⟩, ?_⟩, ?_⟩ <;> rintro rfl <;> cases hd
      · rintro rfl
        cases hd
  | float x => exact hj.elim
  | bool b => cases b <;> exact ⟨_, _, rfl, by decide, by decide⟩
  | array l => cases l <;> exact ⟨_, _, rfl, by decide, by decide⟩
  | object m => cases m <;> exact ⟨_, _, rfl, by decide, by decide⟩
  | null | string _ => exact ⟨_, _, rfl, by decide, by decide⟩

/-- Whether an array is too deep is settled by its bracket or by its items. -/
theorem gives_array {l : List Json} (hc : c.skip = ⟨p, '[' :: t⟩)
    (hl : depth + 1 < depthLimit → ∀ p, Gives (depth + 1 + h < depthLimit) l rest
      (items fuel (depth + 1) true ⟨p, t⟩)) :
    Gives (depth + (h + 1) < depthLimit) (.array l) rest (value (fuel + 1) depth c) := by
  by_cases hd : depth + 1 < depthLimit
  · rw [value_array hc hd]
    exact ((hl hd _).map array).congr (by omega)
  · exact ⟨fun _ => by omega, fun _ => value_tooDeep hc (Or.inl rfl) (by omega)⟩

theorem gives_object {m : List (String × Json)} (hc : c.skip = ⟨p, '\x7b' :: t⟩)
    (hm : depth + 1 < depthLimit → ∀ p, Gives (depth + 1 + h < depthLimit) m rest
      (members fuel (depth + 1) true ⟨p, t⟩)) :
    Gives (depth + (h + 1) < depthLimit) (.object (Members.ofList m)) rest
      (value (fuel + 1) depth c) := by
  by_cases hd : depth + 1 < depthLimit
  · rw [value_object hc hd]
    exact ((hm hd _).map fun m => object (Members.ofList m)).congr (by omega)
  · exact ⟨fun _ => by omega, fun _ => value_tooDeep hc (Or.inr rfl) (by omega)⟩

/-- A key is read, and the colon after it. -/
theorem key_colon (k : List Char) (p : Place) (r : List Char) : ∃ c p',
    Reader.string ((k.flatMap escape ++ '"' :: ':' :: r).length + 1)
      ⟨p, k.flatMap escape ++ '"' :: ':' :: r⟩ = .ok (k, c) ∧ c.skip = ⟨p', ':' :: r⟩ := by
  have hlt : (k.flatMap escape).length < (k.flatMap escape ++ '"' :: ':' :: r).length + 1 := by
    rw [List.length_append]
    omega
  obtain ⟨p₁, h⟩ := string_quoted k hlt p (':' :: r)
  exact ⟨_, p₁, h, skip_self (by decide) p₁ r⟩

/-- After a value there is its closing bracket, perhaps behind blanks. -/
theorem follows_gap {ch : Char} (hch : ch = ']' ∨ ch = '\x7d') (n : Nat) (rest : List Char) :
    Follows (s.gap n ++ ch :: rest) := by
  intro c hc
  cases hg : s.gap n with
  | nil =>
    rw [hg] at hc
    cases hc
    exact Or.inr (hch.imp_right Or.inl)
  | cons d r =>
    rw [hg] at hc
    cases hc
    exact Or.inr (Or.inr (Or.inr (s.isBlank_gap n c (by simp [hg]))))

theorem follows_comma (rest : List Char) : Follows (',' :: rest) := by
  rintro _ ⟨⟩
  exact Or.inl rfl

theorem follows_items (n : Nat) (js : List Json) (rest : List Char) :
    Follows (laid.items s n js ++ rest) := by
  cases js with
  | nil =>
    rw [laid.items, List.append_assoc]
    exact follows_gap (Or.inl rfl) n rest
  | cons j js => exact follows_comma _

theorem follows_members (n : Nat) (ms : List (String × Json)) (rest : List Char) :
    Follows (laid.members s n ms ++ rest) := by
  cases ms with
  | nil =>
    rw [laid.members, List.append_assoc]
    exact follows_gap (Or.inr rfl) n rest
  | cons e ms => exact follows_comma _

/-- Wherever the text of the value is met, the reader gives it. -/
def ReadsValue (s : Style) (fuel depth n : Nat) (j : Json) : Prop :=
  ∀ {c : Cursor} {p : Place} {rest : List Char}, c.skip = ⟨p, j.laid s n ++ rest⟩ → Follows rest →
    Gives (depth + j.height < depthLimit) j.inOrder rest (value fuel depth c)

/-- The same for what follows an item. -/
def ReadsItems (s : Style) (fuel depth n : Nat) (js : List Json) : Prop :=
  ∀ (p : Place) (rest : List Char),
    Gives (depth + height.items js < depthLimit) (inOrder.items js) rest
      (items fuel depth false ⟨p, laid.items s n js ++ rest⟩)

/-- The same for what follows a member. -/
def ReadsMembers (s : Style) (fuel depth n : Nat) (ms : List (String × Json)) : Prop :=
  ∀ (p : Place) (rest : List Char),
    Gives (depth + height.members ms < depthLimit) (inOrder.members ms) rest
      (members fuel depth false ⟨p, laid.members s n ms ++ rest⟩)

theorem length_laid_pos {j : Json} (he : j.Exact) (n : Nat) : 0 < (j.laid s n).length := by
  obtain ⟨c, r, h, -⟩ := begins_laid (s := s) he n
  simp [h]

theorem length_items_pos (n : Nat) (js : List Json) : 0 < (laid.items s n js).length := by
  cases js <;> simp [laid.items]

theorem length_members_pos (n : Nat) (ms : List (String × Json)) :
    0 < (laid.members s n ms).length := by
  cases ms <;> simp [laid.members]

section Parts

variable {n : Nat} {j : Json} {js : List Json} {k : String} {ms : List (String × Json)}

theorem readsValue_scalar (hs : j.laid s n = j.scalar) (hj : j.IsScalar) (he : j.Exact)
    (hfuel : (j.laid s n).length ≤ fuel) (hd : depth < depthLimit) (hh : j.height = 0)
    (ho : j.inOrder = j) : ReadsValue s fuel depth n j := by
  intro c p rest hc hr
  have := length_laid_pos (s := s) he n
  obtain ⟨fuel, rfl⟩ := Nat.exists_eq_add_of_le' (show 1 ≤ fuel by omega)
  rw [hs] at hc
  obtain ⟨p', hp⟩ := value_scalar hj he hr hc fuel depth
  rw [hh, ho]
  exact .of_ok hd hp

theorem readsItems_nil (hd : depth < depthLimit) : ReadsItems s (fuel + 1) depth n [] := by
  intro p rest
  obtain ⟨p', hp⟩ := skip_append (c := ']') (s.isBlank_gap n) (by decide) p rest
  refine .of_ok hd (items_end (p := p') ?_)
  rw [laid.items, List.append_assoc]
  exact hp

/-- An item is read, and then the others. -/
theorem readsItems_value (he : j.Exact) (hv : ReadsValue s fuel depth (n + 1) j)
    (hi : ReadsItems s fuel depth n js) (p : Place) (rest : List Char) :
    Gives (depth + height.items (j :: js) < depthLimit) (inOrder.items (j :: js)) rest
      ((value fuel depth ⟨p, j.laid s (n + 1) ++ (laid.items s n js ++ rest)⟩).bind fun x =>
        (items fuel depth false x.2).map fun y => (x.1 :: y.1, y.2)) := by
  have h := ((begins_laid (s := s) he (n + 1)).append (laid.items s n js ++ rest)).skip_self p
  refine ((hv h (follows_items n js rest)).bind List.cons fun p => hi p rest).congr ?_
  rw [height.items]
  omega

theorem readsItems_first (he : j.Exact) (hv : ReadsValue s fuel depth (n + 1) j)
    (hi : ReadsItems s fuel depth n js) (p : Place) (rest : List Char) :
    Gives (depth + height.items (j :: js) < depthLimit) (inOrder.items (j :: js)) rest
      (items (fuel + 1) depth true
        ⟨p, s.gap (n + 1) ++ (j.laid s (n + 1) ++ (laid.items s n js ++ rest))⟩) := by
  have hbegins := (begins_laid (s := s) he (n + 1)).append (laid.items s n js ++ rest)
  obtain ⟨p', h⟩ := hbegins.skip (s.isBlank_gap (n + 1)) p
  rw [items_first h hbegins]
  exact readsItems_value he hv hi p' rest

theorem readsItems_cons (he : j.Exact) (hv : ReadsValue s fuel depth (n + 1) j)
    (hi : ReadsItems s fuel depth n js) : ReadsItems s (fuel + 1) depth n (j :: js) := by
  intro p rest
  have hbegins := (begins_laid (s := s) he (n + 1)).append (laid.items s n js ++ rest)
  obtain ⟨p', h⟩ := hbegins.skip (s.isBlank_gap (n + 1)) (p.after ',')
  simp only [laid.items, List.cons_append, List.append_assoc]
  rw [items_next (skip_self (by decide) p _) h hbegins]
  exact readsItems_value he hv hi p' rest

theorem readsMembers_nil (hd : depth < depthLimit) : ReadsMembers s (fuel + 1) depth n [] := by
  intro p rest
  obtain ⟨p', hp⟩ := skip_append (c := '\x7d') (s.isBlank_gap n) (by decide) p rest
  refine .of_ok hd (members_end (p := p') ?_)
  rw [laid.members, List.append_assoc]
  exact hp

theorem quoted_append (k : List Char) (r : List Char) :
    quoted k ++ ':' :: r = '"' :: (k.flatMap escape ++ '"' :: ':' :: r) := by
  simp [quoted]

/-- After the colon comes the value of the member, and then the others. -/
theorem readsMembers_value (he : j.Exact) (hv : ReadsValue s fuel depth (n + 1) j)
    (hm : ReadsMembers s fuel depth n ms) (p : Place) (rest : List Char) :
    Gives (depth + height.members ((k, j) :: ms) < depthLimit) (inOrder.members ((k, j) :: ms)) rest
      ((value fuel depth
        ⟨p, s.colon ++ (j.laid s (n + 1) ++ (laid.members s n ms ++ rest))⟩).bind fun x =>
          (members fuel depth false x.2).map fun y => ((k, x.1) :: y.1, y.2)) := by
  obtain ⟨p', h⟩ := ((begins_laid (s := s) he (n + 1)).append (laid.members s n ms ++ rest)).skip
    s.isBlank_colon p
  refine ((hv h (follows_members n ms rest)).bind (fun v vs => (k, v) :: vs)
    fun p => hm p rest).congr ?_
  rw [height.members]
  omega

theorem readsMembers_first (he : j.Exact) (hv : ReadsValue s fuel depth (n + 1) j)
    (hm : ReadsMembers s fuel depth n ms) (p : Place) (rest : List Char) :
    Gives (depth + height.members ((k, j) :: ms) < depthLimit) (inOrder.members ((k, j) :: ms)) rest
      (members (fuel + 1) depth true ⟨p, s.gap (n + 1) ++ (quoted k.toList ++
        ':' :: (s.colon ++ (j.laid s (n + 1) ++ (laid.members s n ms ++ rest))))⟩) := by
  rw [quoted_append]
  obtain ⟨p₁, h⟩ := skip_append (c := '"') (s.isBlank_gap (n + 1)) (by decide) p _
  obtain ⟨c, p₂, hk, hc⟩ := key_colon k.toList (p₁.after '"') _
  rw [members_first h hk hc, String.ofList_toList]
  exact readsMembers_value he hv hm _ rest

theorem readsMembers_cons (he : j.Exact) (hv : ReadsValue s fuel depth (n + 1) j)
    (hm : ReadsMembers s fuel depth n ms) : ReadsMembers s (fuel + 1) depth n ((k, j) :: ms) := by
  intro p rest
  simp only [laid.members, List.cons_append, List.append_assoc]
  rw [quoted_append]
  obtain ⟨p₁, h⟩ := skip_append (c := '"') (s.isBlank_gap (n + 1)) (by decide) (p.after ',') _
  obtain ⟨c, p₂, hk, hc⟩ := key_colon k.toList (p₁.after '"') _
  rw [members_next (skip_self (by decide) p _) h hk hc, String.ofList_toList]
  exact readsMembers_value he hv hm _ rest

theorem readsValue_nil : ReadsValue s (fuel + 2) depth n (.array []) := by
  intro c p rest hc hr
  exact gives_array (h := 0) (l := []) hc fun hd p =>
    .of_ok hd (items_end (skip_self (by decide) p rest))

theorem readsValue_array (he : j.Exact)
    (hv : depth + 1 < depthLimit → ReadsValue s fuel (depth + 1) (n + 1) j)
    (hi : depth + 1 < depthLimit → ReadsItems s fuel (depth + 1) n js) :
    ReadsValue s (fuel + 2) depth n (.array (j :: js)) := by
  intro c p rest hc hr
  simp only [laid, List.cons_append, List.append_assoc] at hc
  exact gives_array hc fun hd p => readsItems_first he (hv hd) (hi hd) p rest

theorem readsValue_empty : ReadsValue s (fuel + 2) depth n (.object []) := by
  intro c p rest hc hr
  exact gives_object (h := 0) (m := []) hc fun hd p =>
    .of_ok hd (members_end (skip_self (by decide) p rest))

theorem readsValue_object (he : j.Exact)
    (hv : depth + 1 < depthLimit → ReadsValue s fuel (depth + 1) (n + 1) j)
    (hm : depth + 1 < depthLimit → ReadsMembers s fuel (depth + 1) n ms) :
    ReadsValue s (fuel + 2) depth n (.object ((k, j) :: ms)) := by
  intro c p rest hc hr
  simp only [laid, List.cons_append, List.append_assoc] at hc
  exact gives_object hc fun hd p => readsMembers_first he (hv hd) (hm hd) p rest

end Parts

mutual

/-- A value is read if there are as many steps as characters in its text. -/
theorem reads_value : (n : Nat) → (j : Json) → j.All Exact → ∀ {fuel depth : Nat},
    (j.laid s n).length ≤ fuel → depth < depthLimit → ReadsValue s fuel depth n j
  | n, .array [], _, fuel, _, hfuel, _ => by
    obtain ⟨fuel, rfl⟩ := Nat.exists_eq_add_of_le' (show 2 ≤ fuel from hfuel)
    exact readsValue_nil
  | n, .array (j :: js), he, fuel, _, hfuel, _ => by
    have := length_items_pos (s := s) n js
    have := length_laid_pos (s := s) he.2.1.self (n + 1)
    simp only [laid, List.length_cons, List.length_append] at hfuel
    obtain ⟨fuel, rfl⟩ := Nat.exists_eq_add_of_le' (show 2 ≤ fuel by omega)
    exact readsValue_array he.2.1.self (reads_value (n + 1) j he.2.1 (by omega))
      (reads_items n js he.2.2 (by omega))
  | n, .object [], _, fuel, _, hfuel, _ => by
    obtain ⟨fuel, rfl⟩ := Nat.exists_eq_add_of_le' (show 2 ≤ fuel from hfuel)
    exact readsValue_empty
  | n, .object ((k, j) :: ms), he, fuel, _, hfuel, _ => by
    have := length_members_pos (s := s) n ms
    have := length_laid_pos (s := s) he.2.1.self (n + 1)
    simp only [laid, List.length_cons, List.length_append] at hfuel
    obtain ⟨fuel, rfl⟩ := Nat.exists_eq_add_of_le' (show 2 ≤ fuel by omega)
    exact readsValue_object he.2.1.self (reads_value (n + 1) j he.2.1 (by omega))
      (reads_members n ms he.2.2 (by omega))
  | _, .null, he, _, _, hfuel, hd =>
    readsValue_scalar (j := .null) rfl trivial he.self hfuel hd rfl rfl
  | _, .bool b, he, _, _, hfuel, hd =>
    readsValue_scalar (j := .bool b) rfl trivial he.self hfuel hd rfl rfl
  | _, .integer k, he, _, _, hfuel, hd =>
    readsValue_scalar (j := .integer k) rfl trivial he.self hfuel hd rfl rfl
  | _, .string t, he, _, _, hfuel, hd =>
    readsValue_scalar (j := .string t) rfl trivial he.self hfuel hd rfl rfl
  | _, .float _, he, _, _, _, _ => he.self.elim

theorem reads_items : (n : Nat) → (js : List Json) → All.items Exact js → ∀ {fuel depth : Nat},
    (laid.items s n js).length ≤ fuel → depth < depthLimit → ReadsItems s fuel depth n js
  | n, [], _, fuel, _, hfuel, hd => by
    have := length_items_pos (s := s) n []
    obtain ⟨fuel, rfl⟩ := Nat.exists_eq_add_of_le' (show 1 ≤ fuel by omega)
    exact readsItems_nil hd
  | n, j :: js, he, fuel, _, hfuel, hd => by
    have := length_items_pos (s := s) n js
    have := length_laid_pos (s := s) he.1.self (n + 1)
    simp only [laid.items, List.length_cons, List.length_append] at hfuel
    obtain ⟨fuel, rfl⟩ := Nat.exists_eq_add_of_le' (show 1 ≤ fuel by omega)
    exact readsItems_cons he.1.self (reads_value (n + 1) j he.1 (by omega) hd)
      (reads_items n js he.2 (by omega) hd)

theorem reads_members : (n : Nat) → (ms : List (String × Json)) → All.members Exact ms →
    ∀ {fuel depth : Nat}, (laid.members s n ms).length ≤ fuel → depth < depthLimit →
    ReadsMembers s fuel depth n ms
  | n, [], _, fuel, _, hfuel, hd => by
    have := length_members_pos (s := s) n []
    obtain ⟨fuel, rfl⟩ := Nat.exists_eq_add_of_le' (show 1 ≤ fuel by omega)
    exact readsMembers_nil hd
  | n, (k, j) :: ms, he, fuel, _, hfuel, hd => by
    have := length_members_pos (s := s) n ms
    have := length_laid_pos (s := s) he.1.self (n + 1)
    simp only [laid.members, List.length_cons, List.length_append] at hfuel
    obtain ⟨fuel, rfl⟩ := Nat.exists_eq_add_of_le' (show 1 ≤ fuel by omega)
    exact readsMembers_cons he.1.self (reads_value (n + 1) j he.1 (by omega) hd)
      (reads_members n ms he.2 (by omega) hd)

end

/-- The text of a value, with blanks after it, is read as the value, or refused because it is
nested too deep. -/
theorem parse_laid {j : Json} (he : j.All Exact) {b : List Char}
    (hb : ∀ c ∈ b, Cursor.isBlank c = true) :
    (j.height < depthLimit → parse (j.laid s 0 ++ b) = .ok j.inOrder) ∧
      (¬ j.height < depthLimit → ∃ p, parse (j.laid s 0 ++ b) = .error ⟨.tooDeep, p⟩) := by
  have hread : ReadsValue s (2 * (j.laid s 0 ++ b).length + 2) 0 0 j :=
    reads_value 0 j he (by simp only [List.length_append]; omega) (by decide)
  have hskip : Cursor.skip (.ofText (j.laid s 0 ++ b)) = ⟨⟨1, 0⟩, j.laid s 0 ++ b⟩ :=
    ((begins_laid he.self 0).append b).skip_self _
  have hfollows : Follows b := fun c hc => Or.inr (Or.inr (Or.inr (hb c (List.mem_of_head? hc))))
  obtain ⟨hok, herror⟩ := hread hskip hfollows
  rw [Nat.zero_add] at hok herror
  constructor
  · intro h
    obtain ⟨p, hp⟩ := hok h
    have hrest : (Cursor.skip ⟨p, b⟩).rest.isEmpty = true := by rw [skip_blanks hb p]; rfl
    simp only [parse, hp, if_pos hrest]
  · intro h
    obtain ⟨p, hp⟩ := herror h
    exact ⟨p, by simp only [parse, hp]⟩

end Values

variable {j : Json} {b : List Char}

/-- What is written without blanks. -/
theorem parse_compact (he : j.All Exact) (hb : ∀ c ∈ b, Cursor.isBlank c = true) :
    (j.height < depthLimit → parse (j.compact ++ b) = .ok j.inOrder) ∧
      (¬ j.height < depthLimit → ∃ p, parse (j.compact ++ b) = .error ⟨.tooDeep, p⟩) := by
  rw [compact_eq_laid 0]
  exact parse_laid he hb

/-- What is written with one item a line. -/
theorem parse_pretty (he : j.All Exact) (hb : ∀ c ∈ b, Cursor.isBlank c = true) :
    (j.height < depthLimit → parse (j.pretty ++ b) = .ok j.inOrder) ∧
      (¬ j.height < depthLimit → ∃ p, parse (j.pretty ++ b) = .error ⟨.tooDeep, p⟩) := by
  rw [pretty, prettyAt_eq_laid]
  exact parse_laid he hb

end UrlMask.Json
