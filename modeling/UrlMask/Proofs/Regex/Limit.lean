import UrlMask.Regex.Size

/-!
# Limits that are large enough

While the size of a regex is reckoned, repetitions stop once the limit is passed. No limit that is
large enough is passed, so from some limit on the size is the same, and the regex fits.

* `Settles`: what does not depend on the limit any more.
* `Form.tally_settles`: the size of a form settles.
* `Regex.exists_fits`: every regex fits within some limit.
-/
namespace UrlMask

/-- From some limit on, the limit makes no difference. -/
def Settles (f : Nat → Tally) : Prop := ∃ n t, ∀ limit, n ≤ limit → f limit = t

namespace Settles

variable {f : Nat → Tally}

theorem const (t : Tally) : Settles fun _ => t := ⟨0, t, fun _ _ => rfl⟩

theorem map (h : Settles f) (g : Tally → Tally) : Settles fun limit => g (f limit) := by
  obtain ⟨n, t, h⟩ := h
  exact ⟨n, g t, fun limit hl => congrArg g (h limit hl)⟩

theorem bind (h : Settles f) {g : Nat → Tally → Tally}
    (hg : ∀ t, Settles fun limit => g limit t) : Settles fun limit => g limit (f limit) := by
  obtain ⟨n, t, h⟩ := h
  obtain ⟨m, u, hg⟩ := hg t
  refine ⟨max n m, u, fun limit hl => ?_⟩
  exact (congrArg (g limit) (h limit (by omega))).trans (hg limit (by omega))

theorem times {g : Nat → Tally → Tally} (hg : ∀ t, Settles fun limit => g limit t) (k : Nat)
    (h : Settles f) : Settles fun limit => Tally.times limit (g limit) k (f limit) := by
  refine h.bind fun t => ?_
  clear h
  induction k generalizing t with
  | zero => exact const t
  | succ k ih =>
    obtain ⟨n, u, h⟩ := (hg t).bind ih
    refine ⟨max n t.bytes, u, fun limit hl => ?_⟩
    dsimp only
    rw [Tally.times, if_neg (by omega)]
    exact h limit (by omega)

end Settles

namespace Form

mutual

/-- The size of a form settles. -/
theorem tally_settles (d : Direction) : (f : Form) → (t : Tally) →
    Settles fun limit => f.tally limit d t
  | empty, t | literal _, t | look _, t => .const _
  | set s, t => .const _
  | capture _ f, t => by
    cases d with
    | forward => exact ((tally_settles .forward f _).map .connect).map (·.add 1 0)
    | backward => exact tally_settles .backward f t
  | .repeat min max _ f, t => by
    have body := tally_settles d f
    have next (t : Tally) := body t.connect
    simp only [tally]
    split
    · exact ((body _).map .connect).map (·.add 1 0)
    · unfold tallyStar
      split
      · exact ((body _).map .connect).map (·.add 3 16)
      · exact ((body _).map .connect).map .branch
    · exact (((body t).map .connect).map (·.add 1 4)).map .branch
    · exact (((Settles.times next _ (body t)).map .connect).map (·.add 1 4)).map .branch
    · have start : Settles fun limit => if min = 0 then t.add 1 0 else
          Tally.times limit (fun t => f.tally limit d t.connect) (min - 1) (f.tally limit d t) := by
        split
        · exact .const _
        · exact .times next _ (body t)
      split
      · exact start
      · exact ((Settles.times (fun t => body (t.connect.add 1 8)) _
          (start.map fun t => { t.add 1 0 with branching := t.branching })).map .connect).map
            (·.add 0 0)
  | concat fs, t => by
    cases d with
    | forward => exact tallyForward_settles fs t
    | backward => exact tallyBackward_settles fs t
  | alternation fs, t => by
    simp only [tally]
    split
    · exact .const _
    · exact tallyBranches_settles d 0 fs t

theorem tallyForward_settles : (fs : List Form) → (t : Tally) →
    Settles fun limit => tally.tallyForward limit fs t
  | [], t => .const t
  | [f], t => tally_settles .forward f t
  | f :: g :: fs, t =>
    ((tally_settles .forward f t).map .connect).bind (tallyForward_settles (g :: fs))

theorem tallyBackward_settles : (fs : List Form) → (t : Tally) →
    Settles fun limit => tally.tallyBackward limit fs t
  | [], t => .const t
  | [f], t => tally_settles .backward f t
  | f :: g :: fs, t =>
    ((tallyBackward_settles (g :: fs) t).map .connect).bind (tally_settles .backward f)

theorem tallyBranches_settles (d : Direction) (done : Nat) : (fs : List Form) → (t : Tally) →
    Settles fun limit => tally.tallyBranches limit d done fs t
  | [], t => .const t
  | f :: fs, t => (((tally_settles d f t).map .connect).map
      (·.add (if done = 1 then 2 else 0) 4)).bind (tallyBranches_settles d (done + 1) fs)

end

theorem automaton_settles (d : Direction) (f : Form) :
    Settles fun limit => f.automaton limit d := by
  unfold automaton
  cases d with
  | forward => exact ((tally_settles .forward f _).map .connect).map (·.add 2 0)
  | backward => exact ((tally_settles .backward f _).map .connect).map (·.add 1 0)

end Form

/-- Every regex fits within some limit. -/
theorem Regex.exists_fits (r : Regex) : ∃ limit, r.fits limit = true := by
  obtain ⟨n, t, h⟩ := Form.automaton_settles .forward (Form.ofRegex r)
  obtain ⟨m, u, h'⟩ := Form.automaton_settles .backward (Form.ofRegex r)
  dsimp only at h h'
  refine ⟨n + m + t.bytes + u.bytes, ?_⟩
  simp only [fits, Bool.and_eq_true, decide_eq_true_eq]
  rw [h _ (by omega), h' _ (by omega)]
  omega

end UrlMask
