import UrlMask.Proofs.Regex.Bare
import UrlMask.Proofs.Regex.Swap
import UrlMask.Regex.Group

/-!
# How the heads of groups are read

A group may take any name that is not taken. So the head of a group is read the same at another
place, before other ends and after other groups, unless the name it gives is taken there.

* `Group.readName_ok`, `Group.readOpen_ok`: when the readers succeed.
* `Group.readOpen_suffix`, `Group.readOpen_texts`: what is left, and which names are taken then.
* `Group.readOpen_swap`: the same head is read before other ends.
-/
namespace UrlMask.Regex

namespace Group

/-! ## Names -/

/-- The names that are taken. -/
def Names.texts (n : Names) : List String := n.named.map (·.1)

theorem Names.find?_eq_none {n : Names} {name : String} :
    n.named.find? (·.1 == name) = none ↔ name ∉ n.texts := by
  simp only [List.find?_eq_none, texts, List.mem_map, beq_iff_eq]
  constructor
  · rintro h ⟨x, hx, e⟩
    exact h x hx e
  · exact fun h x hx e => h ⟨x, hx, e⟩

/-- What can stand between the angle brackets of a name. -/
def IsName : Bool → List Char → Prop
  | _, [] => True
  | first, ch :: s => ch ≠ '>' ∧ isNameChar first ch = true ∧ IsName false s

theorem nameChars_ok {first : Bool} {pos : Nat} {r s : List Char} {d : Cursor} :
    nameChars first pos r = .ok (s, d) ↔ r = s ++ d.rest ∧ d.pos = pos + s.length ∧
      IsName first s ∧ (d.rest = [] ∨ d.peek = some '>') := by
  obtain ⟨q, w⟩ := d
  induction r generalizing first pos s with
  | nil =>
    simp only [nameChars, Except.ok.injEq, Prod.mk.injEq, Cursor.mk.injEq]
    constructor
    · rintro ⟨rfl, rfl, rfl⟩; exact ⟨rfl, rfl, trivial, .inl rfl⟩
    · rintro ⟨h, hq, -, -⟩
      obtain ⟨rfl, rfl⟩ := List.append_eq_nil_iff.1 h.symm
      exact ⟨rfl, hq.symm, rfl⟩
  | cons ch r ih =>
    have stop (hs : s = []) (h : ch :: r = s ++ w) (hw : ch ≠ '>') :
        ¬ (w = [] ∨ (⟨q, w⟩ : Cursor).peek = some '>') := by
      subst hs h
      rintro (h | h)
      · cases h
      · exact hw (Option.some.inj h)
    unfold nameChars
    split
    · next hc =>
      subst hc
      simp only [Except.ok.injEq, Prod.mk.injEq, Cursor.mk.injEq]
      constructor
      · rintro ⟨rfl, rfl, rfl⟩; exact ⟨rfl, rfl, trivial, .inr rfl⟩
      · rintro ⟨h, hq, hs, -⟩
        cases s with
        | nil => exact ⟨rfl, hq.symm, h⟩
        | cons x s => exact absurd (List.cons.inj h).1.symm hs.1
    · next hc =>
      split
      · next hn =>
        simp only [bind_ok, Prod.exists, Except.ok.injEq, Prod.mk.injEq]
        constructor
        · rintro ⟨s', d', h, rfl, rfl⟩
          obtain ⟨rfl, hp, hs, hd⟩ := ih.1 h
          exact ⟨rfl, by rw [List.length_cons]; simp only at hp ⊢; omega, ⟨hc, hn, hs⟩, hd⟩
        · rintro ⟨h, hp, hs, hd⟩
          cases s with
          | nil => exact absurd hd (stop rfl h hc)
          | cons x s =>
            rw [List.cons_append, List.cons.injEq] at h
            obtain ⟨rfl, rfl⟩ := h
            rw [List.length_cons] at hp
            exact ⟨s, ⟨q, w⟩, ih.2 ⟨rfl, by simp only at hp ⊢; omega, hs.2.2, hd⟩, rfl, rfl⟩
      · next hn =>
        simp only [fail_ok, false_iff]
        rintro ⟨h, -, hs, hd⟩
        cases s with
        | nil => exact stop rfl h hc hd
        | cons x s =>
          rw [List.cons_append, List.cons.injEq] at h
          exact hn (h.1 ▸ hs.2.1)

theorem readName_ok {n n' : Names} {name : String} {c d : Cursor} :
    readName n c = .ok (name, n', d) ↔ ∃ s, c.rest = s ++ '>' :: d.rest ∧
      d.pos = c.pos + s.length + 1 ∧ IsName true s ∧ s ≠ [] ∧ name = String.ofList s ∧
      name ∉ n.texts ∧ n' = ⟨n.count + 1, (name, ⟨c.pos, c.pos + s.length⟩) :: n.named⟩ := by
  unfold readName
  simp only [↓fail_bind, guard_ok, bind_ok, Prod.exists, nameChars_ok]
  constructor
  · rintro ⟨-, s, e, ⟨hr, hp, hn, he⟩, hend, hs, h⟩
    have he := he.resolve_left fun h => hend (Cursor.atEnd_iff.2 h)
    split at h
    · cases h
    · next hf =>
      cases h
      refine ⟨s, by rw [hr, Cursor.peek_eq_some.1 he], ?_, hn, by simpa using hs, rfl, ?_, ?_⟩
      · obtain ⟨q, _ | ⟨x, r⟩⟩ := e
        · cases he
        · simp only [Cursor.advance] at hp ⊢; omega
      · exact Names.find?_eq_none.1 hf
      · simp only [Cursor.spanFrom, hp]
  · rintro ⟨s, hr, hp, hn, hs, rfl, hf, rfl⟩
    refine ⟨?_, s, ⟨c.pos + s.length, '>' :: d.rest⟩, ⟨hr, rfl, hn, .inr rfl⟩, ?_, ?_, ?_⟩
    · simp [Cursor.atEnd, hr]
    · simp [Cursor.atEnd]
    · simpa using hs
    · have hf := Names.find?_eq_none.2 hf
      obtain ⟨q, r⟩ := d
      simp only at hp
      simp only [hf, Cursor.advance, Cursor.spanFrom, hp]

/-! ## Flags -/

/-- The same flags, read at other places. -/
def Flags.Same (fs fs' : Flags) : Prop :=
  fs'.items.map (fun f => (f.1, f.2.1)) = fs.items.map (fun f => (f.1, f.2.1)) ∧
    fs'.hyphen.isNone = fs.hyphen.isNone ∧ fs'.dangling.isNone = fs.dangling.isNone

theorem Flags.Same.find? {fs fs' : Flags} (h : fs.Same fs') {f : Flag}
    (hf : fs.items.find? (·.1 == f) = none) : fs'.items.find? (·.1 == f) = none := by
  rw [List.find?_eq_none] at *
  have e : fs'.items.map (·.1) = fs.items.map (·.1) := by
    simpa [Function.comp_def] using congrArg (List.map Prod.fst) h.1
  intro x hx
  obtain ⟨y, hy, hxy⟩ := List.mem_map.1 (e ▸ List.mem_map_of_mem hx)
  exact hxy ▸ hf y hy

theorem readFlags_suffix {pos : Nat} {fs : Flags} {r : List Char} {setting : FlagSetting}
    {d : Cursor} (h : readFlags pos fs r = .ok (setting, d)) :
    d.rest <:+ r ∧ (d.peek = some ':' ∨ d.peek = some ')') := by
  induction r generalizing pos fs with
  | nil => cases h
  | cons ch r ih =>
    unfold readFlags at h
    dsimp only at h
    split at h
    · next hc =>
      split at h
      · cases h
      · cases h
        exact ⟨List.suffix_refl _, hc.imp (congrArg some) (congrArg some)⟩
    · split at h
      · split at h
        · cases h
        · obtain ⟨hs, hp⟩ := ih h
          exact ⟨hs.trans (List.suffix_cons ..), hp⟩
      · split at h
        · cases h
        · split at h
          · cases h
          · obtain ⟨hs, hp⟩ := ih h
            exact ⟨hs.trans (List.suffix_cons ..), hp⟩

theorem readFlags_swap {t t' w : List Char} {pos q : Nat} {fs fs' : Flags}
    {setting : FlagSetting} {d : Cursor} (hfs : fs.Same fs')
    (h : readFlags pos fs (w ++ t) = .ok (setting, d)) (ht : t <:+ d.advance.rest) :
    ∃ d', readFlags q fs' (w ++ t') = .ok (setting, d') ∧ Swap t t' d d' := by
  induction w generalizing pos q fs fs' with
  | nil =>
    obtain ⟨hs, hp⟩ := readFlags_suffix h
    obtain ⟨x, hx⟩ : ∃ x, d.peek = some x := hp.elim (⟨_, ·⟩) (⟨_, ·⟩)
    rw [Cursor.peek_eq_some.1 hx] at hs
    have := hs.length_le
    have := ht.length_le
    simp only [List.nil_append, List.length_cons] at *
    omega
  | cons ch w ih =>
    obtain ⟨hi, hh, hd⟩ := hfs
    rw [List.cons_append] at h ⊢
    unfold readFlags at h ⊢
    dsimp only at h ⊢
    split at h
    · next hc =>
      rw [if_pos hc]
      split at h
      · cases h
      · next hn =>
        rw [hn, Option.isNone_none, Option.isNone_iff_eq_none] at hd
        cases h
        rw [hd]
        refine ⟨⟨q, ch :: (w ++ t')⟩, ?_, ch :: w, rfl, rfl⟩
        simp only [List.map_reverse, hi]
    · next hc =>
      rw [if_neg hc]
      split at h
      · next hy =>
        rw [if_pos hy]
        split at h
        · cases h
        · next hn =>
          rw [hn, Option.isNone_none, Option.isNone_iff_eq_none] at hh
          rw [hh]
          refine ih ?_ h
          exact ⟨hi, rfl, rfl⟩
      · next hy =>
        rw [if_neg hy]
        split at h
        · cases h
        · split at h
          · cases h
          · next hn =>
            simp only [Flags.Same.find? ⟨hi, hh, hd⟩ hn]
            refine ih ?_ h
            exact ⟨by simp only [List.map_cons, hi, hh], hh, rfl⟩

/-! ## Heads -/

/-- The head without places and captures. -/
def Head.bare : Head → Head
  | opened _ kind => .opened .none kind.bare
  | setFlags _ setting => .setFlags .none setting

/-- The name that the head gives to its group. -/
def Head.names : Head → List String
  | opened _ (.capture _ (some name)) => [name]
  | _ => []

/-- The place after the mark of a named group. -/
def nameMark? (c : Cursor) : Option Cursor := (c.eat? "?P<").or (c.eat? "?<")

/-- The head that is read from the place after an opening bracket. -/
inductive Opens (n : Names) (s : Span) (c : Cursor) : Head → Names → Cursor → Prop
  | named {c₂ name n' d} : lookAround? c = none → nameMark? c = some c₂ →
    readName n c₂ = .ok (name, n', d) →
    Opens n s c (.opened s (.capture n'.count (some name))) n' d
  | capture : lookAround? c = none → nameMark? c = none → c.eat? "?" = none →
    Opens n s c (.opened s (.capture (n.count + 1) none)) ⟨n.count + 1, n.named⟩ c
  | setFlags {inner setting last} : lookAround? c = none → nameMark? c = none →
    c.eat? "?" = some inner → inner.rest ≠ [] →
    readFlags inner.pos ⟨[], none, none⟩ inner.rest = .ok (setting, last) →
    last.peek = some ')' → setting ≠ [] →
    Opens n s c (.setFlags (last.advance.spanFrom s.start) setting) n last.advance
  | plain {inner setting last} : lookAround? c = none → nameMark? c = none →
    c.eat? "?" = some inner → inner.rest ≠ [] →
    readFlags inner.pos ⟨[], none, none⟩ inner.rest = .ok (setting, last) →
    last.peek ≠ some ')' → Opens n s c (.opened s (.plain setting)) n last.advance

variable {v : Bool} {n n' m : Names} {h : Head} {c c' d : Cursor} {t t' : List Char}

theorem readOpen_ok :
    readOpen v n c = .ok (h, n', d) ↔ Opens n c.charSpan (c.advanceSkip v) h n' d := by
  unfold readOpen
  dsimp only
  generalize c.advanceSkip v = c₁
  generalize hs : c.charSpan = s
  constructor
  · intro hr
    split at hr
    · cases hr
    · next hl =>
      split at hr
      · next hm =>
        obtain ⟨⟨name, n₁, d₁⟩, hn, hr⟩ := bind_ok.1 hr
        cases hr
        exact .named hl hm hn
      · next hm =>
        split at hr
        · next hq => cases hr; exact .capture hl hm hq
        · next inner hq =>
          simp only [↓fail_bind, guard_ok, bind_ok, Prod.exists, Cursor.atEnd_iff] at hr
          obtain ⟨hi, setting, last, hf, hr⟩ := hr
          split at hr
          · next hp =>
            simp only [guard_ok, List.isEmpty_iff] at hr
            obtain ⟨hne, hr⟩ := hr
            cases hr
            exact .setFlags hl hm hq hi hf hp hne
          · next hp => cases hr; exact .plain hl hm hq hi hf hp
  · intro hr
    cases hr with
    | named hl hm hn =>
      rw [nameMark?] at hm
      simp only [hl, hm, hn]
      rfl
    | capture hl hm hq =>
      rw [nameMark?] at hm
      simp only [hl, hm, hq]
    | setFlags hl hm hq hi hf hp hne =>
      rw [nameMark?] at hm
      rw [ne_eq, ← Cursor.atEnd_iff] at hi
      simp only [hl, hm, hq, hi, hf]
      simp [bind, Except.bind, hp, hne]
    | plain hl hm hq hi hf hp =>
      rw [nameMark?] at hm
      rw [ne_eq, ← Cursor.atEnd_iff] at hi
      simp only [hl, hm, hq, hi, hf]
      simp [bind, Except.bind, hp]

theorem readName_suffix {name : String} (hr : readName n c = .ok (name, n', d)) :
    d.rest <:+ c.rest := by
  obtain ⟨s, hs, -⟩ := readName_ok.1 hr
  exact ⟨s ++ ['>'], by simp [hs]⟩

theorem eat?_suffix {word : String} (hc : c.eat? word = some d) : d.rest <:+ c.rest := by
  obtain ⟨hr, -⟩ := Cursor.eat?_eq_some.1 hc
  exact hr ▸ List.suffix_append _ _

theorem nameMark?_suffix (hm : nameMark? c = some d) : d.rest <:+ c.rest := by
  obtain hm | ⟨-, hm⟩ := Option.or_eq_some_iff.1 hm
  · exact eat?_suffix hm
  · exact eat?_suffix hm

theorem readOpen_suffix (hr : readOpen v n c = .ok (h, n', d)) : d.rest <:+ c.advance.rest := by
  refine List.IsSuffix.trans ?_ (c.advanceSkip_suffix_advance v)
  cases readOpen_ok.1 hr with
  | named _ hm hn => exact (readName_suffix hn).trans (nameMark?_suffix hm)
  | capture => exact List.suffix_refl _
  | setFlags _ _ hq _ hf =>
    exact (Cursor.advance_suffix _).trans ((readFlags_suffix hf).1.trans (eat?_suffix hq))
  | plain _ _ hq _ hf =>
    exact (Cursor.advance_suffix _).trans ((readFlags_suffix hf).1.trans (eat?_suffix hq))

/-- A name that a head gives is new. -/
theorem readOpen_texts (hr : readOpen v n c = .ok (h, n', d)) :
    n'.texts = h.names ++ n.texts ∧ ∀ name ∈ h.names, name ∉ n.texts := by
  cases readOpen_ok.1 hr with
  | named _ _ hn =>
    obtain ⟨s, -, -, -, -, rfl, hf, rfl⟩ := readName_ok.1 hn
    exact ⟨rfl, by simpa [Head.names] using hf⟩
  | capture => exact ⟨rfl, by simp [Head.names]⟩
  | setFlags => exact ⟨rfl, by simp [Head.names]⟩
  | plain => exact ⟨rfl, by simp [Head.names]⟩

/-! ## Heads before other ends -/

theorem readName_swap {name : String} (hs : Swap t t' c c')
    (hr : readName n c = .ok (name, n', d)) (ht : t <:+ d.rest) (hm : name ∉ m.texts) :
    ∃ m' d', readName m c' = .ok (name, m', d') ∧ m'.texts = name :: m.texts ∧
      Swap t t' d d' := by
  obtain ⟨s, hc, -, hn, hne, rfl, -, -⟩ := readName_ok.1 hr
  obtain ⟨w, hw, hc'⟩ := hs.after (u := s ++ ['>']) (r := d.rest) (by simp [hc]) ht
  refine ⟨_, ⟨c'.pos + s.length + 1, w ++ t'⟩, readName_ok.2 ⟨s, by simp [hc'], rfl, hn, hne, rfl,
    hm, rfl⟩, rfl, w, hw, rfl⟩

theorem or_eat?_swap {e : Ends v t t'} (hs : Swap t t' c c') {word : String} {o o' : Option Cursor}
    (hw : ')' ∉ word.toList)
    (ho : (o = none ∧ o' = none) ∨ ∃ d d', o = some d ∧ o' = some d' ∧ Swap t t' d d') :
    ((c.eat? word).or o = none ∧ (c'.eat? word).or o' = none) ∨
      ∃ d d', (c.eat? word).or o = some d ∧ (c'.eat? word).or o' = some d' ∧ Swap t t' d d' := by
  obtain ⟨h₁, h₂⟩ | ⟨d, d', h₁, h₂, hd⟩ := hs.eat? e word hw
  · rw [h₁, h₂]
    exact ho
  · rw [h₁, h₂]
    exact .inr ⟨d, d', rfl, rfl, hd⟩

theorem nameMark?_swap (e : Ends v t t') (hs : Swap t t' c c') :
    (nameMark? c = none ∧ nameMark? c' = none) ∨
      ∃ d d', nameMark? c = some d ∧ nameMark? c' = some d' ∧ Swap t t' d d' :=
  or_eat?_swap (e := e) hs (by decide) (hs.eat? e _ (by decide))

theorem lookAround?_swap (e : Ends v t t') (hs : Swap t t' c c') (hl : lookAround? c = none) :
    lookAround? c' = none := by
  obtain ⟨-, h⟩ | ⟨d, d', h, -⟩ : _ ∨ ∃ d d', lookAround? c = some d ∧ lookAround? c' = some d' ∧
      Swap t t' d d' :=
    or_eat?_swap (e := e) hs (by decide) (or_eat?_swap (e := e) hs (by decide)
      (or_eat?_swap (e := e) hs (by decide) (hs.eat? e _ (by decide))))
  · exact h
  · rw [hl] at h; cases h

theorem nameMark?_none_swap (e : Ends v t t') (hs : Swap t t' c c') (h : nameMark? c = none) :
    nameMark? c' = none := by
  obtain ⟨-, h'⟩ | ⟨_, _, h', -⟩ := nameMark?_swap e hs
  · exact h'
  · rw [h] at h'; cases h'

/-- The text from `c` on is that of flags, up to `last`. -/
structure FlagsAt (c : Cursor) (setting : FlagSetting) (inner last : Cursor) : Prop where
  mark : c.eat? "?" = some inner
  rest : inner.rest ≠ []
  flags : readFlags inner.pos ⟨[], none, none⟩ inner.rest = .ok (setting, last)

theorem FlagsAt.suffix {setting : FlagSetting} {inner last : Cursor}
    (h : FlagsAt c setting inner last) : last.rest <:+ c.rest :=
  (readFlags_suffix h.flags).1.trans (eat?_suffix h.mark)

theorem FlagsAt.swap (e : Ends v t t') (hs : Swap t t' c c') {setting : FlagSetting}
    {inner last : Cursor} (h : FlagsAt c setting inner last) (ht : t <:+ last.advance.rest) :
    ∃ inner' last', FlagsAt c' setting inner' last' ∧ last'.peek = last.peek ∧
      Swap t t' last.advance last'.advance := by
  obtain ⟨x, hx⟩ : ∃ x, last.peek = some x := (readFlags_suffix h.flags).2.elim (⟨_, ·⟩) (⟨_, ·⟩)
  obtain ⟨h₁, -⟩ | ⟨i, inner', h₁, hq, hi⟩ := hs.eat? e "?" (by decide)
  · rw [h.mark] at h₁; cases h₁
  · cases h₁.symm.trans h.mark
    have hf := h.flags
    obtain ⟨w, hw, hw'⟩ := hi
    rw [hw] at hf
    have hsame : Flags.Same ⟨[], none, none⟩ ⟨[], none, none⟩ := ⟨rfl, rfl, rfl⟩
    obtain ⟨last', hf', hl⟩ : ∃ last', readFlags inner'.pos ⟨[], none, none⟩ (w ++ t') =
        .ok (setting, last') ∧ Swap t t' last last' := readFlags_swap hsame hf ht
    have hx' := hl.peek hx ht
    refine ⟨inner', last', ⟨hq, ?_, hw'.symm ▸ hf'⟩, hx'.trans hx.symm, hl.advance hx ht⟩
    intro h₀
    have := (readFlags_suffix (hw'.symm ▸ hf')).1
    rw [h₀, List.suffix_nil, ← Cursor.peek_eq_none, hx'] at this
    cases this

/-- A head is read the same before other ends, where its name is not taken. -/
theorem readOpen_swap (e : Ends v t t') (hs : Swap t t' c c') {x : Char} (hx : c.peek = some x)
    (hr : readOpen v n c = .ok (h, n', d)) (ht : t <:+ d.rest)
    (hm : ∀ name ∈ h.names, name ∉ m.texts) :
    ∃ h' m' d', readOpen v m c' = .ok (h', m', d') ∧ h'.bare = h.bare ∧
      m'.texts = h.names ++ m.texts ∧ Swap t t' d d' := by
  simp only [readOpen_ok] at hr ⊢
  cases hr with
  | named hl hmark hn =>
    have ht₂ := ht.trans (readName_suffix hn)
    obtain ⟨-, hs⟩ := hs.advanceSkip e hx (ht₂.trans (nameMark?_suffix hmark))
    obtain ⟨h₁, -⟩ | ⟨c₂, c₂', h₁, h₂, hs₂⟩ := nameMark?_swap e hs
    · rw [h₁] at hmark; cases hmark
    · cases h₁.symm.trans hmark
      obtain ⟨m', d', hn', htx, hd⟩ := readName_swap hs₂ hn ht (hm _ (List.mem_singleton.2 rfl))
      exact ⟨_, m', d', .named (lookAround?_swap e hs hl) h₂ hn', rfl, htx, hd⟩
  | capture hl hmark hq =>
    obtain ⟨-, hs⟩ := hs.advanceSkip e hx ht
    have hq' : (c'.advanceSkip v).eat? "?" = none := by
      obtain ⟨-, h₂⟩ | ⟨_, _, h₁, -⟩ := hs.eat? e "?" (by decide)
      · exact h₂
      · rw [h₁] at hq; cases hq
    exact ⟨_, _, _, .capture (lookAround?_swap e hs hl) (nameMark?_none_swap e hs hmark) hq', rfl,
      rfl, hs⟩
  | setFlags hl hmark hq hi hf hp hne =>
    have hfl : FlagsAt (c.advanceSkip v) _ _ _ := ⟨hq, hi, hf⟩
    obtain ⟨-, hs⟩ := hs.advanceSkip e hx ((ht.trans (Cursor.advance_suffix _)).trans hfl.suffix)
    obtain ⟨inner', last', hfl', hp', hd⟩ := hfl.swap e hs ht
    exact ⟨_, m, _, .setFlags (lookAround?_swap e hs hl) (nameMark?_none_swap e hs hmark) hfl'.mark
      hfl'.rest hfl'.flags (hp'.trans hp) hne, rfl, rfl, hd⟩
  | plain hl hmark hq hi hf hp =>
    have hfl : FlagsAt (c.advanceSkip v) _ _ _ := ⟨hq, hi, hf⟩
    obtain ⟨-, hs⟩ := hs.advanceSkip e hx ((ht.trans (Cursor.advance_suffix _)).trans hfl.suffix)
    obtain ⟨inner', last', hfl', hp', hd⟩ := hfl.swap e hs ht
    exact ⟨_, m, _, .plain (lookAround?_swap e hs hl) (nameMark?_none_swap e hs hmark) hfl'.mark
      hfl'.rest hfl'.flags (by rwa [hp']), rfl, rfl, hd⟩

end Group

end UrlMask.Regex
