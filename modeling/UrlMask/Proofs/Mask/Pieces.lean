import UrlMask.Mask.Layout

/-!
# The pieces of a mask

The scan that finds the sections of a mask counts square brackets and does nothing else. It loses
nothing of the mask, and a text in which the brackets are balanced is one section, whatever else
stands in it.

* `Layout.text_ofText`: the layout of a mask has the text of the mask.
* `Layout.ofText_section`: a balanced text in square brackets is one section.
* `Layout.body_of_unclosed`: the source of a layout with a section that is never closed.
-/
namespace UrlMask

namespace Layout

/-! ## Parts of a layout -/

/-- The sections that are closed. -/
def sections : Layout → List (List Char)
  | literal _ => []
  | unclosed _ _ => []
  | section' _ body rest => body :: rest.sections

/-- Whether every section is closed. -/
def Closed : Layout → Prop
  | literal _ => True
  | unclosed _ _ => False
  | section' _ _ rest => rest.Closed

instance decidableClosed : (lay : Layout) → Decidable lay.Closed
  | literal _ => isTrue trivial
  | unclosed _ _ => isFalse id
  | section' _ _ rest => decidableClosed rest

/-- The text of the section that is never closed. -/
def tail : Layout → List Char
  | literal _ => []
  | unclosed _ t => t
  | section' _ _ rest => rest.tail

/-- The section that is never closed, as it stands in the source: a group and the end. -/
def openGroup (lay : Layout) : List Char := groupOpen ++ (lay.tail ++ ['$'])

/-- What follows the first opening bracket, in the source. -/
def inside : Layout → List Char
  | literal _ => []
  | unclosed _ t => t
  | section' _ u rest => u ++ ')' :: rest.body

/-- Whether no section has a closing round bracket in it. -/
def NoClose (lay : Layout) : Prop := (∀ u ∈ lay.sections, ')' ∉ u) ∧ ')' ∉ lay.tail

/-- The layout up to the section that is never closed. -/
def front : Layout → Layout
  | literal l => .literal l
  | unclosed l _ => .literal l
  | section' l u rest => .section' l u rest.front

/-- The literal text before the first section. -/
def lead : Layout → List Char
  | literal l => l
  | unclosed l _ => l
  | section' l _ _ => l

/-- The literal text after the last section. -/
def last : Layout → List Char
  | literal l => l
  | unclosed _ _ => []
  | section' _ _ rest => rest.last

theorem closed_front (lay : Layout) : lay.front.Closed := by
  induction lay with
  | literal | unclosed => trivial
  | section' _ _ _ ih => exact ih

theorem sections_front (lay : Layout) : lay.front.sections = lay.sections := by
  induction lay with
  | literal | unclosed => rfl
  | section' _ _ _ ih => rw [front, sections, sections, ih]

theorem body_of_unclosed {lay : Layout} (h : ¬ lay.Closed) :
    lay.body = lay.front.body ++ (groupOpen ++ lay.tail) := by
  induction lay with
  | literal => exact absurd trivial h
  | unclosed l t => simp only [body, front, tail, List.append_assoc]
  | section' l u rest ih => simp only [body, front, tail, ih h, List.append_assoc, List.cons_append]

theorem body_eq_inside {lay : Layout} (h : ¬ lay.Closed) :
    lay.body = escape lay.lead ++ (groupOpen ++ lay.inside) := by
  cases lay with
  | literal => exact absurd trivial h
  | unclosed => simp only [body, lead, inside, List.append_assoc]
  | section' => simp only [body, lead, inside, List.append_assoc]

/-! ## The scan loses nothing -/

/-- The text of pieces, of which the first is inside a section or not. -/
def join (inside : Bool) : List (List Char) → List Char
  | [] => []
  | [p] => p
  | p :: ps => p ++ (if inside then ']' else '[') :: join (!inside) ps

theorem join_cons (inside : Bool) (p : List Char) {ps : List (List Char)} (h : ps ≠ []) :
    join inside (p :: ps) = p ++ (if inside then ']' else '[') :: join (!inside) ps := by
  cases ps with
  | nil => exact absurd rfl h
  | cons => rfl

theorem pushFront_ne_nil (c : Char) (ps : List (List Char)) : pushFront c ps ≠ [] := by
  cases ps <;> simp [pushFront]

theorem join_pushFront (inside : Bool) (c : Char) {ps : List (List Char)} (h : ps ≠ []) :
    join inside (pushFront c ps) = c :: join inside ps := by
  match ps with
  | [_] => rfl
  | _ :: _ :: _ => rfl

/-! The scan, one character at a time. -/

theorem pieces_enter (s : List Char) : pieces 0 ('[' :: s) = [] :: pieces 1 s := rfl

theorem pieces_leave (s : List Char) : pieces 1 (']' :: s) = [] :: pieces 0 s := rfl

theorem pieces_open (d : Nat) (s : List Char) :
    pieces (d + 1) ('[' :: s) = pushFront '[' (pieces (d + 2) s) := rfl

theorem pieces_close (d : Nat) (s : List Char) :
    pieces (d + 2) (']' :: s) = pushFront ']' (pieces (d + 1) s) := rfl

theorem pieces_stray (s : List Char) : pieces 0 (']' :: s) = pushFront ']' (pieces 0 s) := rfl

theorem pieces_other {c : Char} (h : c ≠ '[') (h' : c ≠ ']') (d : Nat) (s : List Char) :
    pieces d (c :: s) = pushFront c (pieces d s) := by
  rw [pieces, if_neg h, if_neg fun hc => h' hc.1]

theorem pieces_ne_nil (d : Nat) (s : List Char) : pieces d s ≠ [] := by
  cases s with
  | nil => simp [pieces]
  | cons c s =>
    unfold pieces
    repeat' split
    all_goals first | exact pushFront_ne_nil _ _ | exact List.cons_ne_nil _ _

theorem join_pieces (d : Nat) (s : List Char) : join (d != 0) (pieces d s) = s := by
  induction s generalizing d with
  | nil => rfl
  | cons c s ih =>
    have hne (e : Nat) := pieces_ne_nil e s
    by_cases hc : c = '['
    · subst hc
      cases d with
      | zero => rw [pieces_enter, join_cons _ _ (hne 1)]; exact congrArg ('[' :: ·) (ih 1)
      | succ d =>
        rw [pieces_open, join_pushFront _ _ (hne _)]
        exact congrArg ('[' :: ·) (ih (d + 2))
    · by_cases hc' : c = ']'
      · subst hc'
        match d with
        | 0 => rw [pieces_stray, join_pushFront _ _ (hne _), ih]
        | 1 => rw [pieces_leave, join_cons _ _ (hne 0)]; exact congrArg (']' :: ·) (ih 0)
        | d + 2 =>
          rw [pieces_close, join_pushFront _ _ (hne _)]
          exact congrArg (']' :: ·) (ih (d + 1))
      · rw [pieces_other hc hc', join_pushFront _ _ (hne _), ih]

theorem text_ofPieces (ps : List (List Char)) : (ofPieces ps).text = join false ps := by
  fun_induction ofPieces ps with
  | case1 => rfl
  | case2 => rfl
  | case3 => simp [text, join]
  | case4 l u p ps ih => simp [text, ih, join]

/-- The layout of a mask has the text of the mask. -/
theorem text_ofText (s : List Char) : (ofText s).text = s := by
  rw [ofText, text_ofPieces]
  exact join_pieces 0 s

/-! ## Balanced brackets -/

/-- The depth of square brackets after a text, if none is closed that was not opened in it. -/
def depthAfter : Nat → List Char → Option Nat
  | d, [] => some d
  | d, c :: cs =>
    if c = '[' then depthAfter (d + 1) cs
    else if c = ']' then (if d = 0 then none else depthAfter (d - 1) cs)
    else depthAfter d cs

/-- Whether square brackets come in pairs, as a scan counts them that knows nothing of regexes. -/
def Balanced (s : List Char) : Prop := depthAfter 0 s = some 0

instance (s : List Char) : Decidable (Balanced s) := inferInstanceAs (Decidable (_ = _))

/-- What the first character does to the depth. -/
theorem depthAfter_cons {d e : Nat} {c : Char} {s : List Char}
    (h : depthAfter d (c :: s) = some e) :
    (c = '[' ∧ depthAfter (d + 1) s = some e) ∨
    (∃ d', c = ']' ∧ d = d' + 1 ∧ depthAfter d' s = some e) ∨
    (c ≠ '[' ∧ c ≠ ']' ∧ depthAfter d s = some e) := by
  rw [depthAfter] at h
  by_cases hc : c = '['
  · rw [if_pos hc] at h
    exact Or.inl ⟨hc, h⟩
  rw [if_neg hc] at h
  by_cases hc' : c = ']'
  · rw [if_pos hc'] at h
    cases d with
    | zero => cases h
    | succ d => exact Or.inr (Or.inl ⟨d, hc', rfl, h⟩)
  · rw [if_neg hc'] at h
    exact Or.inr (Or.inr ⟨hc, hc', h⟩)

/-- Inside a section a balanced text is passed over. -/
theorem pieces_append {d e : Nat} {s : List Char} (h : depthAfter d s = some e) (r : List Char) :
    pieces (d + 1) (s ++ r) = s.foldr pushFront (pieces (e + 1) r) := by
  induction s generalizing d with
  | nil => cases h; rfl
  | cons c s ih =>
    rw [List.cons_append, List.foldr_cons]
    obtain ⟨rfl, hs⟩ | ⟨d, rfl, rfl, hs⟩ | ⟨hc, hc', hs⟩ := depthAfter_cons h
    · rw [pieces_open, ih hs]
    · rw [pieces_close, ih hs]
    · rw [pieces_other hc hc', ih hs]

theorem foldr_pushFront (s p : List Char) (ps : List (List Char)) :
    s.foldr pushFront (p :: ps) = (s ++ p) :: ps := by
  induction s with
  | nil => rfl
  | cons c s ih => rw [List.foldr_cons, ih]; rfl

/-- A balanced text in square brackets is one section. -/
theorem ofText_section {s : List Char} (h : Balanced s) :
    ofText ('[' :: (s ++ [']'])) = .section' [] s (.literal []) := by
  have hp : pieces 1 (s ++ [']']) = [s, []] := by
    rw [pieces_append h]
    exact (foldr_pushFront s [] [[]]).trans (by rw [List.append_nil])
  rw [ofText, pieces_enter, hp]
  rfl

end Layout

end UrlMask
