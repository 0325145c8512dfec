import UrlMask.CommandLine
import UrlMask.Proofs.Text.Span

/-!
# Commands can be written as arguments

A command is written with the values of its options behind equals signs and with its positional
arguments behind `--`. Then no text in it can be taken for something else: an option is cut at its
first equals sign, and behind `--` nothing is an option.

* `Invocation.Complete`: a check has URLs, and a path is not empty.
* `write`: arguments that ask for a command.
* `scan_assigned`, `scan_flag`, `scan_places`: what is read of these arguments, one after the other.
* `complete_of_read`: only complete commands are read.
* `read_write_iff`: they are what is written, and it is read back.
-/
namespace UrlMask

/-- The commands that arguments can ask for. -/
def Invocation.Complete : Invocation → Prop
  | .compile _ | .request .. => True
  | .check _ urls _ => urls ≠ []
  | .filter _ file => file ≠ some ""

namespace CommandLine

/-- An option with its value behind an equals sign. -/
def assigned (name value : String) : String := "--" ++ name ++ "=" ++ value

/-- Arguments that ask for a command. -/
def write : Invocation → List String
  | .compile mask => ["compile", "--", mask]
  | .check mask urls all =>
    ["check"] ++ (if all then ["--all"] else []) ++ ["--", mask] ++ urls
  | .request mask url template =>
    ["request"] ++ (template.map (assigned "template")).toList ++ ["--", mask, url]
  | .filter masks file =>
    ["filter"] ++ masks.map (assigned "purl") ++ (file.map (assigned "input")).toList

variable {v : Verb} {k : Kind} {p p' : Progress} {a name value : String} {as : List String}

/-! ## How an argument reads -/

/-- An option is cut at its first equals sign, whatever its value holds. -/
theorem splitValue_append (h : '=' ∉ name.toList) (value : String) :
    splitValue (name.toList ++ '=' :: value.toList) = (name, some value) := by
  have hname : ∀ c ∈ name.toList, (c != '=') = true := by
    intro c hc
    simp only [bne_iff_ne, ne_eq]
    rintro rfl
    exact h hc
  have hstop : ∀ c ∈ ('=' :: value.toList).head?, (c != '=') = false := by simp
  simp [splitValue, Span.takeWhile_append_stop hname hstop, Span.dropWhile_append_stop hname hstop]

theorem shape_long {s : List Char} (h : s ≠ []) :
    Shape.ofText ('-' :: '-' :: s) = .long (splitValue s).1 (splitValue s).2 := by
  cases s with
  | nil => exact absurd rfl h
  | cons c r => rfl

theorem shape_assigned (h : '=' ∉ name.toList) (value : String) :
    Shape.ofText (assigned name value).toList = .long name (some value) := by
  have htext : (assigned name value).toList =
      '-' :: '-' :: (name.toList ++ '=' :: value.toList) := by
    simp [assigned]
  rw [htext, shape_long (by simp), splitValue_append h]

/-! ## What is taken up -/

theorem settle_of_none (h : p.pending = none) : p.settle v = .ok p := by
  simp [Progress.settle, h]

/-- An option is taken up with its value if it may be given again or has not been given, and if the
value is not empty where it is a path. -/
theorem take_ok : p.take v name value = .ok p' ↔
    (v.option? name = some .texts ∨ p.has name = false) ∧
      (v.option? name = some .path → value ≠ "") ∧
      p' = { p with options := p.options ++ [(name, value)] } := by
  have hinj (q : Progress) : (Except.ok q : Except Fault Progress) = .ok p' ↔ p' = q := by
    rw [Except.ok.injEq, eq_comm]
  unfold Progress.take
  split
  · next h => simp [hinj, h]
  · next h => cases p.has name <;> by_cases hv : value = "" <;> simp [hinj, h, hv]
  · next ht hp =>
    have ht : v.option? name ≠ some .texts := ht
    have hp : v.option? name ≠ some .path := hp
    cases p.has name <;> simp [hinj, ht, hp]

/-- A positional argument is taken if there is room for it. -/
theorem place_ok (hroom : p.places.length < v.places ∨ v.takesMore = true) (hp : p.pending = none) :
    p.place v a = .ok { p with places := p.places ++ [a] } := by
  rw [Progress.place, if_pos hroom, settle_of_none hp]
  rfl

/-! ## What is read of the arguments -/

theorem scan_long {value : Option String} (h : Shape.ofText a.toList = .long name value) :
    scan v false p (a :: as) = (p.long v name value).bind fun p => scan v false p as := by
  simp [scan, h]

/-- An option with its value is taken up. -/
theorem scan_assigned (hname : '=' ∉ name.toList) (hhelp : name ≠ "help")
    (hk : v.option? name = some k) (hflag : k ≠ .flag) (hp : p.pending = none)
    (htake : p.take v name value = .ok p') :
    scan v false p (assigned name value :: as) = scan v false p' as := by
  have hlong : p.long v name (some value) = .ok p' := by
    cases k with
    | flag => exact absurd rfl hflag
    | _ => simp [Progress.long, hhelp, hk, settle_of_none hp, Except.bind, htake]
  rw [scan_long (shape_assigned hname value), hlong]
  rfl

/-- Behind `--` every argument is positional, as long as there is room. -/
theorem scan_places (hroom : p.places.length + as.length ≤ v.places ∨ v.takesMore = true)
    (hp : p.pending = none) : scan v true p as = .ok { p with places := p.places ++ as } := by
  induction as generalizing p with
  | nil => simp [scan, settle_of_none hp]
  | cons a as ih =>
    have hplace := place_ok (a := a) (hroom.imp_left fun h => by simp at h; omega) hp
    have hrest := ih (p := { p with places := p.places ++ [a] })
      (hroom.imp_left fun h => by simp at h ⊢; omega) hp
    simp only [scan, hplace, Except.bind, hrest]
    simp

/-- A flag is taken up. -/
theorem scan_flag (ha : Shape.ofText a.toList = .long name none) (hhelp : name ≠ "help")
    (hk : v.option? name = some .flag) (hp : p.pending = none) (htake : p.take v name "" = .ok p') :
    scan v false p (a :: as) = scan v false p' as := by
  have hlong : p.long v name none = .ok p' := by
    simp [Progress.long, hhelp, hk, settle_of_none hp, Except.bind, htake]
  rw [scan_long ha, hlong]
  rfl

/-- The masks of a filter are taken up in order. -/
theorem scan_masks (masks : List String) (hp : p.pending = none) :
    scan .filter false p (masks.map (assigned "purl") ++ as) =
      scan .filter false { p with options := p.options ++ masks.map ("purl", ·) } as := by
  induction masks generalizing p with
  | nil => simp
  | cons mask masks ih =>
    have htake : p.take .filter "purl" mask =
        .ok { p with options := p.options ++ [("purl", mask)] } :=
      take_ok.2 ⟨Or.inl rfl, nofun, rfl⟩
    have hrest := ih (p := { p with options := p.options ++ [("purl", mask)] }) hp
    rw [List.map_cons, List.cons_append,
      scan_assigned (by decide) (by decide) (k := .texts) rfl nofun hp htake, hrest]
    simp

/-! ## Reading what is written -/

theorem read_of_scan {i : Invocation} (hscan : scan v false .start as = .ok p)
    (hi : p.invocation v = .ok i) : read (v.name :: as) = .ok i := by
  simp [read, Verb.ofName?_name, hscan, Except.bind, hi]

theorem read_compile (mask : String) : read (write (.compile mask)) = .ok (.compile mask) := by
  have hscan : scan .compile false .start ["--", mask] = .ok ⟨[mask], [], none⟩ :=
    scan_places (Or.inl (Nat.le_refl 1)) rfl
  exact read_of_scan hscan rfl

theorem read_check {urls : List String} (h : urls ≠ []) (mask : String) (all : Bool) :
    read (write (.check mask urls all)) = .ok (.check mask urls all) := by
  obtain ⟨url, urls, rfl⟩ := List.exists_cons_of_ne_nil h
  cases all with
  | false =>
    have hscan : scan .check false .start ("--" :: mask :: url :: urls) =
        .ok ⟨mask :: url :: urls, [], none⟩ := scan_places (Or.inr rfl) rfl
    exact read_of_scan hscan rfl
  | true =>
    have htake : Progress.start.take .check "all" "" = .ok ⟨[], [("all", "")], none⟩ :=
      take_ok.2 ⟨Or.inr rfl, nofun, rfl⟩
    have hscan : scan .check false .start ("--all" :: "--" :: mask :: url :: urls) =
        .ok ⟨mask :: url :: urls, [("all", "")], none⟩ :=
      (scan_flag (by decide) (by decide) rfl rfl htake).trans (scan_places (Or.inr rfl) rfl)
    exact read_of_scan hscan rfl

theorem read_request (mask url : String) (template : Option String) :
    read (write (.request mask url template)) = .ok (.request mask url template) := by
  cases template with
  | none =>
    have hscan : scan .request false .start ["--", mask, url] = .ok ⟨[mask, url], [], none⟩ :=
      scan_places (Or.inl (Nat.le_refl 2)) rfl
    exact read_of_scan hscan rfl
  | some t =>
    have htake : Progress.start.take .request "template" t = .ok ⟨[], [("template", t)], none⟩ :=
      take_ok.2 ⟨Or.inr rfl, nofun, rfl⟩
    have hscan : scan .request false .start [assigned "template" t, "--", mask, url] =
        .ok ⟨[mask, url], [("template", t)], none⟩ :=
      (scan_assigned (by decide) (by decide) (k := .text) rfl nofun rfl htake).trans
        (scan_places (Or.inl (Nat.le_refl 2)) rfl)
    exact read_of_scan hscan rfl

theorem scan_filter {file : Option String} (h : file ≠ some "") (masks : List String) :
    scan .filter false .start (masks.map (assigned "purl") ++ (file.map (assigned "input")).toList) =
      .ok ⟨[], masks.map ("purl", ·) ++ file.toList.map ("input", ·), none⟩ := by
  rw [scan_masks masks rfl]
  cases file with
  | none => simp [scan, Progress.settle, Progress.start]
  | some f =>
    have hnew : Progress.has ⟨[], masks.map ("purl", ·), none⟩ "input" = false := by
      simp [Progress.has]
    have hf : f ≠ "" := fun hf => h (by rw [hf])
    have htake : Progress.take .filter ⟨[], masks.map ("purl", ·), none⟩ "input" f =
        .ok ⟨[], masks.map ("purl", ·) ++ [("input", f)], none⟩ :=
      take_ok.2 ⟨Or.inr hnew, fun _ => hf, rfl⟩
    exact scan_assigned (by decide) (by decide) (k := .path) rfl nofun rfl htake

theorem read_filter {file : Option String} (h : file ≠ some "") (masks : List String) :
    read (write (.filter masks file)) = .ok (.filter masks file) := by
  refine read_of_scan (scan_filter h masks) ?_
  cases file <;> simp [Progress.invocation, Progress.values, List.filter_map, Function.comp_def]

/-! ## What is read is complete -/

/-- No option that takes a path has the empty value. -/
def Progress.Filled (v : Verb) (p : Progress) : Prop :=
  ∀ e ∈ p.options, v.option? e.1 = some .path → e.2 ≠ ""

theorem filled_take (h : p.take v name value = .ok p') (hp : p.Filled v) : p'.Filled v := by
  obtain ⟨-, hvalue, rfl⟩ := take_ok.1 h
  intro e he
  rcases List.mem_append.1 he with he | he
  · exact hp e he
  · cases List.mem_singleton.1 he
    exact hvalue

theorem filled_settle (h : p.settle v = .ok p') (hp : p.Filled v) : p'.Filled v := by
  unfold Progress.settle at h
  split at h
  · cases h
    exact hp
  · cases h
  · exact filled_take h hp

theorem filled_place (h : p.place v a = .ok p') (hp : p.Filled v) : p'.Filled v := by
  unfold Progress.place at h
  split at h
  · obtain ⟨q, hq, rfl⟩ := map_ok.1 h
    have hfilled : q.Filled v := filled_settle hq hp
    exact hfilled
  · cases h

theorem filled_long {value : Option String} (h : p.long v name value = .ok p') (hp : p.Filled v) :
    p'.Filled v := by
  unfold Progress.long at h
  split at h
  · split at h
    · cases h
    · obtain ⟨q, -, hq⟩ := bind_ok.1 h
      cases hq
  · split at h
    · cases h
    · cases h
    · obtain ⟨q, hq, h⟩ := bind_ok.1 h
      exact filled_take h (filled_settle hq hp)
    · obtain ⟨q, hq, h⟩ := bind_ok.1 h
      exact filled_take h (filled_settle hq hp)
    · obtain ⟨q, hq, rfl⟩ := map_ok.1 h
      have hfilled : q.Filled v := filled_settle hq hp
      exact hfilled

theorem filled_scan {rest : Bool} (h : scan v rest p as = .ok p') (hp : p.Filled v) :
    p'.Filled v := by
  induction as generalizing rest p with
  | nil =>
    cases rest <;> exact filled_settle h hp
  | cons a as ih =>
    cases rest with
    | true =>
      obtain ⟨q, hq, h⟩ := bind_ok.1 h
      exact ih h (filled_place hq hp)
    | false =>
      unfold scan at h
      split at h
      · exact ih h hp
      · obtain ⟨q, hq, h⟩ := bind_ok.1 h
        exact ih h (filled_long hq hp)
      · split at h
        · obtain ⟨q, -, hq⟩ := bind_ok.1 h
          cases hq
        · cases h
      · split at h
        · exact ih h hp
        · obtain ⟨q, hq, h⟩ := bind_ok.1 h
          exact ih h (filled_place hq hp)

theorem complete_of_invocation {i : Invocation} (h : p.invocation v = .ok i) (hp : p.Filled v) :
    i.Complete := by
  unfold Progress.invocation at h
  split at h
  · cases h
    trivial
  · cases h
    exact List.cons_ne_nil _ _
  · cases h
    trivial
  · cases h
    intro hfile
    obtain ⟨e, he, hempty⟩ := List.mem_map.1 (List.mem_of_head? hfile)
    obtain ⟨he, hname⟩ := List.mem_filter.1 he
    refine hp e he ?_ hempty
    rw [eq_of_beq hname]
    rfl
  · cases h

/-- Arguments ask for complete commands only. -/
theorem complete_of_read {args : List String} {i : Invocation} (h : read args = .ok i) :
    i.Complete := by
  unfold read at h
  split at h
  · cases h
  · split at h
    · obtain ⟨p, hp, h⟩ := bind_ok.1 h
      exact complete_of_invocation h (filled_scan hp nofun)
    · repeat' split at h
      all_goals cases h

/-- The commands that arguments can ask for are complete, and each of them is asked for by what is
written for it, whatever texts it holds. -/
theorem read_write_iff {i : Invocation} :
    (read (write i) = .ok i ↔ i.Complete) ∧ (i.Complete ↔ ∃ args, read args = .ok i) := by
  have hwrite (h : i.Complete) : read (write i) = .ok i := by
    cases i with
    | compile mask => exact read_compile mask
    | check mask urls all => exact read_check h mask all
    | request mask url template => exact read_request mask url template
    | filter masks file => exact read_filter h masks
  refine ⟨⟨complete_of_read, hwrite⟩, fun h => ⟨_, hwrite h⟩, ?_⟩
  rintro ⟨args, h⟩
  exact complete_of_read h

-- Texts that look like options, and one that looks like a command.
example : read ["check", "--all", "--", "--", "-h", "help"] =
    .ok (.check "--" ["-h", "help"] true) := by
  decide +kernel

end CommandLine

end UrlMask
