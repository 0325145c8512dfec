import UrlMask.Proofs.Mask.Language
import UrlMask.Proofs.Text.Blank

/-!
# Quoted texts

Any text can be written as a mask for itself: everything but square brackets stands for itself, and
a square bracket is written as a section that holds its code point.

* `Layout.ofText_quote`: the layout of a quoted text.
* `Layout.cuts_quoted`: it cuts the text that was quoted and no other.
* `Mask.accepts_quote`: the mask of a quoted text is refused for its size only, and accepts that
  text alone.
-/
namespace UrlMask

open Regex Regex.Parser

/-! ## Quoting -/

namespace Layout

def openQuote : List Char := ['\\', 'x', '5', 'B']

def closeQuote : List Char := ['\\', 'x', '5', 'D']

/-- A character as it stands in a mask for it. -/
def quoteChar (c : Char) : List Char :=
  if c = '[' then '[' :: (openQuote ++ [']'])
  else if c = ']' then '[' :: (closeQuote ++ [']'])
  else [c]

/-- The mask for a text. -/
def quote (s : List Char) : List Char := s.flatMap quoteChar

/-- A character of literal text at the front. -/
def push (c : Char) : Layout → Layout
  | literal l => .literal (c :: l)
  | unclosed l t => .unclosed (c :: l) t
  | section' l b r => .section' (c :: l) b r

/-- The layout of the mask for a text. -/
def quoted : List Char → Layout
  | [] => .literal []
  | c :: s =>
    if c = '[' then .section' [] openQuote (quoted s)
    else if c = ']' then .section' [] closeQuote (quoted s)
    else (quoted s).push c

theorem ofPieces_pushFront (c : Char) {ps : List (List Char)} (h : ps ≠ []) :
    ofPieces (pushFront c ps) = (ofPieces ps).push c := by
  match ps with
  | [_] => rfl
  | [_, _] => rfl
  | _ :: _ :: _ :: _ => rfl

/-- A balanced section in front of a mask. -/
theorem ofPieces_section {u : List Char} (hu : Balanced u) (s : List Char) :
    ofPieces (pieces 0 ('[' :: (u ++ ']' :: s))) = .section' [] u (ofPieces (pieces 0 s)) := by
  have hp : pieces 1 (u ++ ']' :: s) = u :: pieces 0 s := by
    rw [pieces_append hu, pieces_leave, foldr_pushFront, List.append_nil]
  rw [pieces_enter, hp]
  cases h : pieces 0 s with
  | nil => exact absurd h (pieces_ne_nil 0 s)
  | cons p ps => rfl

/-- The layout of a quoted text. -/
theorem ofText_quote (s : List Char) : ofText (quote s) = quoted s := by
  unfold ofText
  induction s with
  | nil => rfl
  | cons c s ih =>
    rw [quote, List.flatMap_cons, ← quote, quoteChar, quoted]
    split
    · rw [List.cons_append, List.append_assoc, List.singleton_append,
        ofPieces_section (by decide), ih]
    · split
      · rw [List.cons_append, List.append_assoc, List.singleton_append,
          ofPieces_section (by decide), ih]
      · next h h' =>
        rw [List.singleton_append, pieces_other h h', ofPieces_pushFront _ (pieces_ne_nil 0 _), ih]

/-! ## What the layout of a quoted text cuts -/

theorem cuts_push {lay : Layout} {c : Char} {b w : List Char} :
    (lay.push c).Cuts b w ↔ ∃ v, w = c :: v ∧ lay.Cuts (b ++ [c]) v := by
  constructor
  · intro h
    cases lay with
    | literal l => cases h; exact ⟨l, rfl, .literal⟩
    | unclosed => cases h
    | section' l u r =>
      cases h with
      | section' hr hv hw =>
        refine ⟨_, rfl, .section' hr (by simpa using hv) (by simpa using hw)⟩
  · rintro ⟨v, rfl, h⟩
    cases h with
    | literal => exact .literal
    | section' hr hv hw =>
      exact Cuts.section' (l := c :: _) hr (by simpa using hv) (by simpa using hw)

theorem means_openQuote : Means openQuote (.set (.singleton '[')) := ⟨_, _, rfl, rfl⟩

theorem means_closeQuote : Means closeQuote (.set (.singleton ']')) := ⟨_, _, rfl, rfl⟩

theorem sections_push (c : Char) (lay : Layout) : (lay.push c).sections = lay.sections := by
  cases lay <;> rfl

theorem means_quoted (s : List Char) : ∀ u ∈ (quoted s).sections, ∃ r, Means u r := by
  induction s with
  | nil => nofun
  | cons c s ih =>
    rw [quoted]
    split
    · exact List.forall_mem_cons.2 ⟨⟨_, means_openQuote⟩, ih⟩
    · split
      · exact List.forall_mem_cons.2 ⟨⟨_, means_closeQuote⟩, ih⟩
      · rwa [sections_push]

/-- A section for one character cuts that character off. -/
theorem cuts_character {u : List Char} {c : Char} (hu : Means u (.set (.singleton c)))
    {rest : Layout} {b w : List Char} :
    (section' [] u rest).Cuts b w ↔ ∃ v, w = c :: v ∧ rest.Cuts (b ++ [c]) v := by
  rw [cuts_section hu]
  simp only [List.nil_append, List.append_nil]
  constructor
  · rintro ⟨v, w', rfl, hv, hw⟩
    cases hv with
    | set h =>
      cases (CharSet.has_singleton _ _).1 h
      exact ⟨w', rfl, hw⟩
  · rintro ⟨v, rfl, hv⟩
    exact ⟨[c], v, rfl, .set ((CharSet.has_singleton c c).2 rfl), hv⟩

/-- The layout of a quoted text cuts that text and no other. -/
theorem cuts_quoted {s b w : List Char} : (quoted s).Cuts b w ↔ w = s := by
  induction s generalizing b w with
  | nil =>
    constructor
    · intro h
      cases h
      rfl
    · rintro rfl
      exact .literal
  | cons c s ih =>
    have hc : (quoted (c :: s)).Cuts b w ↔ ∃ v, w = c :: v ∧ (quoted s).Cuts (b ++ [c]) v := by
      rw [quoted]
      split
      · next h => subst h; exact cuts_character means_openQuote
      · split
        · next h => subst h; exact cuts_character means_closeQuote
        · exact cuts_push
    rw [hc]
    simp only [ih, exists_eq_right]

/-! ## How the layout of a quoted text is read -/

/-- An item of one character, in a group or not. -/
def IsCharacter (a : Ast) : Prop :=
  (∃ c, a = charTree c) ∨ ∃ l, a = sectionTree (.literal l)

theorem Tree.push {lay : Layout} {as : List Ast} {new : List String} (h : lay.Tree as new)
    (c : Char) : (lay.push c).Tree (charTree c :: as) new := by
  cases h with
  | literal => exact .literal
  | section' hu hr => exact .section' (l := c :: _) hu hr

/-- A text that is one escape is read as a literal. -/
theorem section_of_escape {u r : List Char} {l : Literal} {c : Cursor} (hu : u = '\\' :: r)
    (hr : Symbol.read false '\\' ⟨0, u ++ [')']⟩ = .ok (.literal l, c)) (hc : c.rest = [')']) :
    Section u (.literal l.bare) [] := by
  subst hu
  have hs : isSymbol '\\' = true := by decide
  have h : ReadsTo ('\\' :: r) [')'] (State.init.push (Symbol.literal l).toAst) :=
    ⟨c, Top.init.symbol rfl hs hr, hc, rfl⟩
  exact ⟨_, h, by simp [State.push, Level.push, Level.toAst, Level.branch, State.init, Level.begin',
    Symbol.toAst, Ast.bare], rfl⟩

theorem section_openQuote : ∃ l, Section openQuote (.literal l) [] :=
  ⟨_, section_of_escape rfl rfl rfl⟩

theorem section_closeQuote : ∃ l, Section closeQuote (.literal l) [] :=
  ⟨_, section_of_escape rfl rfl rfl⟩

/-- A quoted text is read as items of one character, without names. -/
theorem tree_quoted (s : List Char) :
    ∃ as, (quoted s).Tree as [] ∧ ∀ a ∈ as, IsCharacter a := by
  induction s with
  | nil => exact ⟨[], .literal, nofun⟩
  | cons c s ih =>
    obtain ⟨as, ht, has⟩ := ih
    rw [quoted]
    split
    · obtain ⟨l, hl⟩ := section_openQuote
      exact ⟨_, .section' hl ht, List.forall_mem_cons.2 ⟨.inr ⟨l, rfl⟩, has⟩⟩
    · split
      · obtain ⟨l, hl⟩ := section_closeQuote
        exact ⟨_, .section' hl ht, List.forall_mem_cons.2 ⟨.inr ⟨l, rfl⟩, has⟩⟩
      · exact ⟨_, ht.push c, List.forall_mem_cons.2 ⟨.inl ⟨c, rfl⟩, has⟩⟩

theorem IsCharacter.shallow {a : Ast} (h : IsCharacter a) : a.tooDeep nestLimit 1 = none := by
  rcases h with ⟨c, rfl⟩ | ⟨l, rfl⟩
  · rfl
  · rfl

theorem tooDeepList_eq_none {limit d : Nat} {as : List Ast}
    (h : ∀ a ∈ as, a.tooDeep limit d = none) : Ast.tooDeep.tooDeepList limit d as = none := by
  induction as with
  | nil => rfl
  | cons a as ih =>
    rw [List.forall_mem_cons] at h
    rw [Ast.tooDeep.tooDeepList, h.1, ih h.2]
    rfl

/-- A source of items of one character is not too deep. -/
theorem shallow_of_bare {ast : Ast} {as : List Ast}
    (h : ast.bare = .concat .none (startTree :: (as ++ [endTree])))
    (has : ∀ a ∈ as, IsCharacter a) : ast.tooDeep nestLimit 0 = none := by
  have hlist : Ast.tooDeep.tooDeepList nestLimit 1 (startTree :: (as ++ [endTree])) = none := by
    apply tooDeepList_eq_none
    intro a ha
    simp only [List.mem_cons, List.mem_append, List.not_mem_nil, or_false] at ha
    rcases ha with rfl | ha | rfl
    · rfl
    · exact (has a ha).shallow
    · rfl
  have hb := Ast.tooDeep_bare nestLimit 0 ast
  rw [h, Ast.tooDeep, if_pos (by decide), hlist] at hb
  exact Option.isNone_iff_eq_none.1 (Option.isSome_eq_false_iff.1 hb.symm)

end Layout

/-! ## Blanks around a quoted text -/

namespace Layout

theorem quote_ne_nil {u : List Char} (h : u ≠ []) : quote u ≠ [] := by
  obtain ⟨c, s, rfl⟩ := List.exists_cons_of_ne_nil h
  rw [quote, List.flatMap_cons, quoteChar]
  split
  · exact List.cons_ne_nil _ _
  · split
    · exact List.cons_ne_nil _ _
    · exact List.cons_ne_nil _ _

theorem exists_head_quoteChar {c : Char} (h : Text.isBlank c = false) :
    ∃ d s, quoteChar c = d :: s ∧ Text.isBlank d = false := by
  unfold quoteChar
  split
  · exact ⟨'[', _, rfl, by decide⟩
  · split
    · exact ⟨'[', _, rfl, by decide⟩
    · exact ⟨c, [], rfl, h⟩

theorem exists_last_quoteChar {c : Char} (h : Text.isBlank c = false) :
    ∃ s d, quoteChar c = s ++ [d] ∧ Text.isBlank d = false := by
  unfold quoteChar
  split
  · exact ⟨'[' :: openQuote, ']', rfl, by decide⟩
  · split
    · exact ⟨'[' :: closeQuote, ']', rfl, by decide⟩
    · exact ⟨[], c, rfl, h⟩

/-- Blanks around a quoted text do not count. -/
theorem trim_quote {a u b : List Char} (hu : u ≠ []) (ht : Text.trim u = u)
    (ha : ∀ c ∈ a, Text.isBlank c = true) (hb : ∀ c ∈ b, Text.isBlank c = true) :
    Text.trim (a ++ quote u ++ b) = quote u := by
  obtain ⟨hhead, hlast⟩ := Text.ends_of_trim_eq_self ht
  have hstart : Text.trimStart (quote u ++ b) = quote u ++ b := by
    obtain ⟨c, s, rfl⟩ := List.exists_cons_of_ne_nil hu
    obtain ⟨d, t, hq, hd⟩ := exists_head_quoteChar (hhead c rfl)
    rw [quote, List.flatMap_cons, hq]
    exact Text.trimStart_cons hd _
  have hend : Text.trimEnd (quote u) = quote u := by
    rcases List.eq_nil_or_concat u with rfl | ⟨s, c, rfl⟩
    · exact absurd rfl hu
    · rw [List.concat_eq_append] at hlast ⊢
      obtain ⟨t, d, hq, hd⟩ := exists_last_quoteChar (hlast c (by simp))
      rw [quote, List.flatMap_append, List.flatMap_singleton, hq, ← List.append_assoc]
      exact Text.trimEnd_concat _ hd
  rw [Text.trim, List.append_assoc, Text.trimStart_append ha, hstart, Text.trimEnd_append _ hb,
    hend]

end Layout

/-! ## Masks of quoted texts -/

namespace Mask

open Layout

/-- The mask of a quoted text, with blanks around it, is refused for its size only. It accepts the
text that was quoted and no other. -/
theorem accepts_quote {u a b : List Char} (hu : u ≠ []) (ht : Text.trim u = u)
    (ha : ∀ c ∈ a, Text.isBlank c = true) (hb : ∀ c ∈ b, Text.isBlank c = true)
    (template : Template) (limit : Nat) :
    (∀ e, ofText (a ++ quote u ++ b) template limit = .error e →
      e = .malformed (a ++ quote u ++ b) (.tooLarge limit)) ∧
    ∀ m, ofText (a ++ quote u ++ b) template limit = .ok m → ∀ v, m.accepts v = true ↔ v = u := by
  have htrim := trim_quote hu ht ha hb
  obtain ⟨as, hq, has⟩ := tree_quoted u
  have hl : Layout.ofText (Text.trim (a ++ quote u ++ b)) = quoted u := by
    rw [htrim, ofText_quote]
  rw [← hl] at hq
  constructor
  · intro e he
    obtain ⟨ast, hast, hbare⟩ := hq.ofText_source .nil
    have hne : Text.trim (a ++ quote u ++ b) ≠ [] := by
      rw [htrim]
      exact quote_ne_nil hu
    have hmeans : ∀ x ∈ (Layout.ofText (Text.trim (a ++ quote u ++ b))).sections,
        ∃ r, Layout.Means x r := by
      rw [hl]
      exact means_quoted u
    obtain ⟨r, hr, -⟩ := hq.describes hmeans
    obtain ⟨r', hr'⟩ := meaning_source hbare (by simp) hr
    exact ofText_error_of_shallow hne hast (shallow_of_bare hbare has) hr' he
  · intro m hm v
    rw [(cuts_of_tree hm hq .nil).2, hl, cuts_quoted]

/-- Brackets next to hexadecimal digits, a newline inside, and blanks at both ends of the mask. -/
theorem accepts_quote_of_brackets : ∃ m,
    ofText " [\\x5B]0[\\x5D]\né \t".toList [] defaultLimit = .ok m ∧
      ∀ v, m.accepts v = true ↔ v = "[0]\né".toList := by
  have hok : (ofText (" ".toList ++ quote "[0]\né".toList ++ " \t".toList) []
      defaultLimit).toOption.any (fun _ => true) = true := by decide +kernel
  obtain ⟨m, hm, -⟩ := exists_ok_of_any hok
  have h := accepts_quote (u := "[0]\né".toList) (a := " ".toList) (b := " \t".toList) (by decide)
    (by decide) (List.all_eq_true.1 rfl) (List.all_eq_true.1 rfl) [] defaultLimit
  exact ⟨m, hm, h.2 m hm⟩

end Mask

end UrlMask
