import UrlMask.Proofs.Command.Check
import UrlMask.Proofs.Mask.Meaning
import UrlMask.Proofs.Text.Lines
import UrlMask.Proofs.Text.Span

/-!
# Reading back what a check writes

A check writes each URL as it is, so a URL that holds line ends goes on over several lines. Its
first line begins with the verdict. What is written falls into the URLs again if no later line of a
URL begins like the line of a result.

* `laterLines`, `Imitates`: the lines of a URL behind its first, and those that could be mistaken.
* `splitOn_checked`: the lines of what is written, URL by URL.
* `length_checked`, `countP_checked`: how many lines there are, and how many of them say that a URL
  does not match.
* `eq_of_checkLines_append`: where the lines of a URL end.
* `check_read_back`: the URLs are read back, and the lines are counted.
-/
namespace UrlMask.Command

open Report

variable {c : Config} {mask : String} {m : Mask} {url u v : String} {urls : List String}

/-! ## The lines of a URL -/

/-- The line begins like that of a result: with a verdict and a tab. -/
def beginsResult (line : List Char) : Bool :=
  [true, false].any fun b => (verdict b ++ ['\t']).isPrefixOf line

/-- The line begins with the word for a URL that does not match. -/
def beginsMiss (line : List Char) : Bool := (verdict false).isPrefixOf line

/-- The lines of a URL behind its first. -/
def laterLines (url : String) : List (List Char) := (url.toList.splitOn '\n').tail

/-- A later line of the URL could be taken for that of a result. -/
def Imitates (url : String) : Prop := ∃ line ∈ laterLines url, beginsResult line = true

instance (url : String) : Decidable (Imitates url) :=
  inferInstanceAs (Decidable (∃ line ∈ laterLines url, beginsResult line = true))

theorem exists_first_line (url : String) :
    ∃ first, url.toList.splitOn '\n' = first :: laterLines url := by
  obtain ⟨first, later, h⟩ := List.exists_cons_of_ne_nil (List.splitOn_ne_nil '\n' url.toList)
  exact ⟨first, by rw [laterLines, h, List.tail_cons]⟩

/-! ## The lines that are written -/

/-- The lines that are written for a URL. -/
def checkLines (m : Mask) (url : String) : List (List Char) :=
  (verdict (m.accepts url.toList) ++ '\t' :: url.toList).splitOn '\n'

theorem not_mem_verdict (b : Bool) : '\n' ∉ verdict b ++ ['\t'] := by
  cases b <;> decide

/-- The first line has the verdict in front, and the later ones are as they are in the URL. -/
theorem exists_checkLines (m : Mask) (url : String) :
    ∃ first, url.toList.splitOn '\n' = first :: laterLines url ∧
      checkLines m url = (verdict (m.accepts url.toList) ++ '\t' :: first) :: laterLines url := by
  obtain ⟨first, h⟩ := exists_first_line url
  have hsplit := Text.splitOn_append_of_not_mem (t := url.toList)
    (not_mem_verdict (m.accepts url.toList))
  rw [h, List.modifyHead_cons, List.append_assoc, List.append_assoc] at hsplit
  exact ⟨first, h, hsplit⟩

/-- What is written falls into the lines of each URL, and nothing stands behind the last. -/
theorem splitOn_checked (m : Mask) (urls : List String) :
    (urls.flatMap (checkLine m)).splitOn '\n' = urls.flatMap (checkLines m) ++ [[]] := by
  have hline : checkLine m = fun u =>
      (verdict (m.accepts u.toList) ++ '\t' :: u.toList) ++ ['\n'] := by
    funext u
    simp [checkLine, verdictLine]
  rw [hline]
  exact Text.splitOn_lines _ urls

/-- There is a line for each URL, and one for each later line of a URL. -/
theorem length_checked (m : Mask) (urls : List String) :
    (urls.flatMap (checkLines m)).length = urls.length + (urls.flatMap laterLines).length := by
  induction urls with
  | nil => rfl
  | cons u us ih =>
    obtain ⟨first, -, hlines⟩ := exists_checkLines m u
    simp only [List.flatMap_cons, List.length_append, hlines, List.length_cons, ih]
    omega

theorem beginsMiss_verdict (b : Bool) (s : List Char) :
    beginsMiss (verdict b ++ '\t' :: s) = !b := by
  cases b <;> rfl

/-- The word for a URL that does not match begins a line for each such URL, and the later lines that
happen to begin with it. -/
theorem countP_checked (m : Mask) (urls : List String) :
    (urls.flatMap (checkLines m)).countP beginsMiss =
      misses m urls + (urls.flatMap laterLines).countP beginsMiss := by
  induction urls with
  | nil => rfl
  | cons u us ih =>
    obtain ⟨first, -, hlines⟩ := exists_checkLines m u
    simp only [List.flatMap_cons, List.countP_append, hlines, List.countP_cons,
      beginsMiss_verdict, ih, misses]
    omega

/-! ## Where the lines of a URL end -/

theorem beginsResult_verdict (b : Bool) (s : List Char) :
    beginsResult (verdict b ++ '\t' :: s) = true := by
  cases b <;> simp [beginsResult, verdict]

theorem verdict_append_inj {b b' : Bool} {s s' : List Char}
    (h : verdict b ++ '\t' :: s = verdict b' ++ '\t' :: s') : s = s' := by
  cases b <;> cases b' <;> simp [verdict] at h <;> exact h

/-- Behind the lines of a URL there is nothing, or the line of another result. -/
theorem beginsResult_of_head (m : Mask) (urls : List String) :
    ∀ line ∈ (urls.flatMap (checkLines m)).head?, beginsResult line = true := by
  intro line hline
  cases urls with
  | nil => cases hline
  | cons u us =>
    obtain ⟨first, -, hlines⟩ := exists_checkLines m u
    rw [List.flatMap_cons, hlines, List.cons_append, List.head?_cons] at hline
    cases hline
    exact beginsResult_verdict _ _

/-- So the later lines end there, if none of them begins like a result. -/
theorem takeWhile_laterLines (hu : ¬ Imitates u) (m : Mask) (urls : List String) :
    (laterLines u ++ urls.flatMap (checkLines m)).takeWhile (! beginsResult ·) = laterLines u := by
  refine Span.takeWhile_append_stop (fun line hline => ?_) fun line hline => ?_
  · have : ¬ beginsResult line = true := fun h => hu ⟨line, hline, h⟩
    simpa using this
  · simpa using beginsResult_of_head m urls line hline

/-- The lines say which URL they are of, and where they end. -/
theorem eq_of_checkLines_append {us vs : List String} (hu : ¬ Imitates u) (hv : ¬ Imitates v)
    (h : checkLines m u ++ us.flatMap (checkLines m) =
      checkLines m v ++ vs.flatMap (checkLines m)) :
    u = v ∧ us.flatMap (checkLines m) = vs.flatMap (checkLines m) := by
  obtain ⟨first, hfirst, hlines⟩ := exists_checkLines m u
  obtain ⟨first', hfirst', hlines'⟩ := exists_checkLines m v
  rw [hlines, hlines', List.cons_append, List.cons_append] at h
  obtain ⟨hhead, htail⟩ := List.cons.inj h
  have hlater : laterLines u = laterLines v := by
    rw [← takeWhile_laterLines hu m us, htail, takeWhile_laterLines hv m vs]
  have hsplit : u.toList.splitOn '\n' = v.toList.splitOn '\n' := by
    rw [hfirst, hfirst', verdict_append_inj hhead, hlater]
  have hchars : u.toList = v.toList :=
    calc
      u.toList = ['\n'].intercalate (u.toList.splitOn '\n') := (List.intercalate_splitOn '\n').symm
      _ = ['\n'].intercalate (v.toList.splitOn '\n') := by rw [hsplit]
      _ = v.toList := List.intercalate_splitOn '\n'
  exact ⟨String.toList_inj.1 hchars, List.append_cancel_left (hlater ▸ htail)⟩

theorem checked_eq_nil : urls.flatMap (checkLines m) = [] ↔ urls = [] := by
  rw [List.flatMap_eq_nil_iff, List.eq_nil_iff_forall_not_mem]
  exact forall_congr' fun u => imp_congr_right fun _ =>
    iff_of_false (List.splitOn_ne_nil '\n' _) id

/-- The lines that are written are those of one list of URLs. -/
theorem eq_of_checked {us vs : List String} (hus : ∀ u ∈ us, ¬ Imitates u)
    (hvs : ∀ v ∈ vs, ¬ Imitates v)
    (h : us.flatMap (checkLines m) = vs.flatMap (checkLines m)) : us = vs := by
  induction us generalizing vs with
  | nil => exact (checked_eq_nil.1 h.symm).symm
  | cons u us ih =>
    cases vs with
    | nil => exact checked_eq_nil.1 h
    | cons v vs =>
      obtain ⟨hu, hus⟩ := List.forall_mem_cons.1 hus
      obtain ⟨hv, hvs⟩ := List.forall_mem_cons.1 hvs
      rw [List.flatMap_cons, List.flatMap_cons] at h
      obtain ⟨huv, hrest⟩ := eq_of_checkLines_append hu hv h
      rw [huv, ih hus hvs hrest]

/-! ## Checks -/

/-- The URLs are read back from what a check writes, unless one of them imitates a result. There are
as many lines as URLs just if each URL is one line, and the lines that say so are as many as the
URLs that do not match just if no later line of a URL begins in this way. -/
theorem check_read_back (hm : Mask.ofText mask.toList [] c.sizeLimit = .ok m) :
    (∀ us vs all all', (∀ u ∈ us, ¬ Imitates u) → (∀ v ∈ vs, ¬ Imitates v) →
      (check c mask us all).output = (check c mask vs all').output → us = vs) ∧
    ∀ us all, ∃ lines, (check c mask us all).output.splitOn '\n' = lines ++ [[]] ∧
      (lines.length = us.length ↔ ∀ u ∈ us, '\n' ∉ u.toList) ∧
      (lines.countP beginsMiss = misses m us ↔
        ∀ u ∈ us, ∀ line ∈ laterLines u, ¬ beginsMiss line) ∧
      (check c mask us all).result =
        if all && misses m us != 0 then .error (.missed (misses m us) us.length mask)
        else .ok () := by
  have hseen (us : List String) (all : Bool) :
      (check c mask us all).output = us.flatMap (checkLine m) ∧ (check c mask us all).result =
        if all && misses m us != 0 then .error (.missed (misses m us) us.length mask)
        else .ok () :=
    Prod.mk.inj (seen_check_of_ok hm)
  constructor
  · intro us vs all all' hus hvs h
    have hsplit := congrArg (List.splitOn '\n') h
    rw [(hseen us all).1, (hseen vs all').1, splitOn_checked, splitOn_checked] at hsplit
    exact eq_of_checked hus hvs (List.append_cancel_right hsplit)
  · intro us all
    refine ⟨us.flatMap (checkLines m), ?_, ?_, ?_, (hseen us all).2⟩
    · rw [(hseen us all).1, splitOn_checked]
    · rw [length_checked, Nat.add_eq_left, List.length_eq_zero_iff, List.flatMap_eq_nil_iff]
      exact forall₂_congr fun u _ => Text.tail_splitOn_eq_nil
    · rw [countP_checked, Nat.add_eq_left, List.countP_eq_zero]
      simp only [List.forall_mem_flatMap]

/-- A URL that matches, and one on two lines that does not, are told from other URLs. -/
theorem check_read_back_of_two_lines : ∃ m lines,
    Mask.ofText "a:[.*]".toList [] ({} : Config).sizeLimit = .ok m ∧
    (∀ vs, (∀ v ∈ vs, ¬ Imitates v) → (check {} "a:[.*]" vs false).output =
      (check {} "a:[.*]" ["a:", "x\nmatch"] true).output → ["a:", "x\nmatch"] = vs) ∧
    (check {} "a:[.*]" ["a:", "x\nmatch"] true).output.splitOn '\n' = lines ++ [[]] ∧
    lines.length ≠ 2 ∧ lines.countP beginsMiss = misses m ["a:", "x\nmatch"] := by
  have hbuilt : (Mask.ofText "a:[.*]".toList [] ({} : Config).sizeLimit).toOption.any
      (fun _ => true) = true := by
    decide +kernel
  obtain ⟨m, hm, -⟩ := Mask.exists_ok_of_any hbuilt
  obtain ⟨hback, hlines⟩ := check_read_back hm
  obtain ⟨lines, hsplit, hlen, hcount, -⟩ := hlines ["a:", "x\nmatch"] true
  refine ⟨m, lines, hm, fun vs hvs h => ?_, hsplit, fun h => ?_, ?_⟩
  · exact hback _ vs true false (by decide) hvs h.symm
  · exact absurd (hlen.1 h) (by decide)
  · exact hcount.2 (by decide)

/-- A URL whose second line imitates a result is not told from two URLs. There are two lines for it,
and both say that a URL does not match, but it is one URL. -/
theorem imitated_result :
    (check {} "a:" ["x\nno-match\ty"] true).output = (check {} "a:" ["x", "y"] true).output ∧
    ["x\nno-match\ty"] ≠ ["x", "y"] ∧
    (check {} "a:" ["x\nno-match\ty"] true).output.splitOn '\n' =
      ["no-match\tx".toList, "no-match\ty".toList, []] ∧
    ∃ m, Mask.ofText "a:".toList [] ({} : Config).sizeLimit = .ok m ∧
      misses m ["x\nno-match\ty"] = 1 := by
  have hout : (check {} "a:" ["x\nno-match\ty"] true).output =
      (check {} "a:" ["x", "y"] true).output := by
    decide +kernel
  have hlines : (check {} "a:" ["x\nno-match\ty"] true).output.splitOn '\n' =
      ["no-match\tx".toList, "no-match\ty".toList, []] := by
    decide +kernel
  have hbuilt : (Mask.ofText "a:".toList [] ({} : Config).sizeLimit).toOption.any
      (fun m => misses m ["x\nno-match\ty"] == 1) = true := by
    decide +kernel
  obtain ⟨m, hm, hone⟩ := Mask.exists_ok_of_any hbuilt
  exact ⟨hout, by decide, hlines, m, hm, eq_of_beq hone⟩

end UrlMask.Command
