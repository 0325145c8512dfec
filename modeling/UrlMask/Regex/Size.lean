import Std.Data.TreeMap
import UrlMask.Regex.ByteRuns

/-!
# The size of a regex

A regex is limited in the memory that its automata take. There are two, one for each direction
of reading, and each has to stay within the limit. A state takes 32 bytes, a transition of a
state with several takes 8 more, and an alternative of a branching state takes 4 more. The
states of sets beyond ASCII are shared where their remaining bytes agree, as far as a table of
bounded size remembers.

* `Form.tally`: states and links of a form, in one direction.
* `Regex.fits`: whether both automata stay within a limit.
-/
namespace UrlMask

/-- What an automaton under construction amounts to. -/
structure Tally where
  states : Nat
  /-- The bytes of transitions and alternatives. -/
  links : Nat
  /-- Whether the fragment that was added last ends in a branching state, to which whatever
  follows is added as an alternative. -/
  branching : Bool
  deriving DecidableEq, Repr

namespace Tally

def init : Tally := ⟨0, 0, false⟩

def bytes (t : Tally) : Nat := t.states * 32 + t.links

/-- Adds states with these links; the last of them is no branching state. -/
def add (states links : Nat) (t : Tally) : Tally := ⟨t.states + states, t.links + links, false⟩

/-- Connects the end of the last fragment with what follows. -/
def connect (t : Tally) : Tally := if t.branching then { t with links := t.links + 4 } else t

/-- Marks the end as a branching state. -/
def branch (t : Tally) : Tally := { t with branching := true }

/-- Runs `f` up to `n` times, until the limit is passed. -/
def times (limit : Nat) (f : Tally → Tally) : Nat → Tally → Tally
  | 0, t => t
  | n + 1, t => if limit < t.bytes then t else times limit f n (f t)

end Tally

/-! ## Shared states -/

/-- The remainder by `slots` of the 64-bit FNV-1a sum of the numbers. -/
def slotOf (slots : Nat) (key : List Nat) : Nat :=
  key.foldl (fun h n => (h ^^^ n) * 1099511628211 % Nat.pow 2 64) 14695981039346656037 % slots

/-- The states built so far that can be shared: one for each slot, the latest. -/
structure Shared where
  tally : Tally
  slots : Std.TreeMap Nat (List Nat × Nat)

namespace Shared

/-- The state with this key, as built before or else built now with `links` bytes of transitions. -/
def find (size links : Nat) (key : List Nat) (s : Shared) : Nat × Shared :=
  let slot := slotOf size key
  match s.slots[slot]? with
  | some (k, id) => if k == key then (id, s) else build slot
  | none => build slot
where
  build (slot : Nat) : Nat × Shared :=
    let id := s.tally.states
    (id, ⟨s.tally.add 1 links, s.slots.insert slot (key, id)⟩)

end Shared

/-- Sequences that begin with the same run, side by side. -/
def groupByFirst : List (List ByteRun) → List (ByteRun × List (List ByteRun))
  | [] => []
  | [] :: rest => groupByFirst rest
  | (r :: tail) :: rest =>
    match groupByFirst rest with
    | (r', tails) :: groups =>
      if r = r' then (r, tail :: tails) :: groups else (r, [tail]) :: (r', tails) :: groups
    | [] => [(r, [tail])]

/-- The state from which the sequences lead to `target`, read forwards. `depth` is at least the
length of the sequences. -/
def forwardState (target : Nat) : Nat → List (List ByteRun) → Shared → Nat × Shared
  | 0, _, s => (target, s)
  | depth + 1, seqs, s =>
    if seqs.all (·.isEmpty) then (target, s)
    else
      let groups := groupByFirst seqs
      let (key, s) := groups.foldl
        (fun (acc : List Nat × Shared) g =>
          let (id, s) := forwardState target depth g.2 acc.2
          (acc.1 ++ [g.1.lo, g.1.hi, id], s)) ([], s)
      s.find 10000 (8 * groups.length) key

/-- A set beyond ASCII, read forwards. -/
def Tally.addForwardSet (c : CharSet) (t : Tally) : Tally :=
  let target := t.states
  (forwardState target 5 (ByteRun.sequences c) ⟨t.add 1 0, ∅⟩).2.tally.add 0 0

/-- A set beyond ASCII, read backwards: the sequences share the states at their ends. -/
def Tally.addBackwardSet (c : CharSet) (t : Tally) : Tally :=
  let target := t.states + 1
  let seqs := ByteRun.sequences c
  let s := seqs.foldl
    (fun (s : Shared) seq =>
      (seq.foldl (fun (acc : Nat × Shared) r => acc.2.find 1000 0 [acc.1, r.lo, r.hi])
        (target, s)).2) ⟨t.add 2 (4 * seqs.length), ∅⟩
  s.tally.add 0 0

/-! ## Alternatives that are all literals -/

/-- The alternatives at one node of a tree of literals. Each end of a literal starts a new chunk
of branches, as only literals before it come first. -/
def chunksOf : List (List UInt8) → List (List (List UInt8))
  | lits =>
    match lits.dropWhile (·.isEmpty) with
    | rest => if rest.length < lits.length then [] :: split rest else split rest
where
  split : List (List UInt8) → List (List (List UInt8))
    | [] => [[]]
    | [] :: rest => [] :: split rest
    | l :: rest =>
      match split rest with
      | c :: cs => (l :: c) :: cs
      | [] => [[l]]

/-- The different first bytes of a chunk. -/
def firstBytes (chunk : List (List UInt8)) : List UInt8 :=
  (chunk.filterMap List.head?).eraseDups

/-- The tree of the literals that remain at one node. `depth` is at least their length. -/
def Tally.addTree : Nat → List (List UInt8) → Tally → Tally
  | 0, _, t => t
  | depth + 1, lits, t =>
    if lits.all (·.isEmpty) then t
    else
      let chunks := chunksOf lits
      let t := chunks.foldl
        (fun t chunk =>
          let bytes := firstBytes chunk
          let t := bytes.foldl
            (fun t b => addTree depth
              ((chunk.filter fun l => l.head? == some b).map List.tail) t) t
          match bytes.length with
          | 0 => t
          | 1 => t.add 1 0
          | n => t.add 1 (8 * n)) t
      t.add 1 (4 * ((chunks.filter fun c => !c.isEmpty).length + chunks.length - 1))

def Form.literal? : Form → Option (List UInt8)
  | literal bs => some bs
  | _ => none

/-! ## Forms -/

namespace Form

/-- The direction in which an automaton reads. -/
inductive Direction where
  | forward
  | backward
  deriving DecidableEq, Repr

/-- A branching state for a repetition without bound; `again` adds the body. -/
def tallyStar (zeroWidth : Bool) (again : Tally → Tally) (t : Tally) : Tally :=
  if zeroWidth then
    -- A body that can be empty gets a way around it of its own.
    ((again t).connect.add 3 16)
  else ((again (t.add 1 4)).connect).branch

/-- The states of a form, added to those of `t`. -/
def tally (limit : Nat) (d : Direction) : Form → Tally → Tally
  | empty, t => t.add 1 0
  | literal bs, t => t.add bs.length 0
  | look _, t => t.add 1 0
  | set s, t =>
    if s.isAscii then t.add 2 (8 * s.intervals.length)
    else
      match d with
      | .forward => t.addForwardSet s
      | .backward => t.addBackwardSet s
  | capture _ f, t =>
    match d with
    | .forward => ((f.tally limit d (t.add 1 0)).connect).add 1 0
    | .backward => f.tally limit d t
  | .repeat min max _ f, t =>
    let body := f.tally limit d
    let next := fun t => body (t.connect)
    match min, max with
    | 0, some 1 => (body (t.add 1 8)).connect.add 1 0
    | 0, none => tallyStar (f.minBytes.getD 0 == 0) body t
    | 1, none => ((body t).connect.add 1 4).branch
    | n, none => ((Tally.times limit next (n - 1) (body t)).connect.add 1 4).branch
    | n, some m =>
      let start' := if n = 0 then t.add 1 0 else Tally.times limit next (n - 1) (body t)
      if m ≤ n then start'
      else
        let wasOpen := start'.branching
        let start := { start'.add 1 0 with branching := wasOpen }
        (Tally.times limit (fun t => body (t.connect.add 1 8)) (m - n) start).connect.add 0 0
  | concat fs, t =>
    match d with
    | .forward => tallyForward limit fs t
    | .backward => tallyBackward limit fs t
  | alternation fs, t =>
    match fs.mapM literal? with
    | some lits =>
      let lits := if d = .backward then lits.map List.reverse else lits
      Tally.addTree (lits.foldl (fun n l => max n l.length) 0 + 1) lits (t.add 1 0)
    | none => tallyBranches limit d 0 fs t
where
  /-- The items of a sequence, first to last. -/
  tallyForward (limit : Nat) : List Form → Tally → Tally
    | [], t => t
    | [f], t => f.tally limit .forward t
    | f :: fs, t => tallyForward limit fs (f.tally limit .forward t).connect
  /-- The items of a sequence, last to first. -/
  tallyBackward (limit : Nat) : List Form → Tally → Tally
    | [], t => t
    | [f], t => f.tally limit .backward t
    | f :: fs, t => f.tally limit .backward (tallyBackward limit fs t).connect
  /-- The branches; the branching state and the common end come after the first two. -/
  tallyBranches (limit : Nat) (d : Direction) (done : Nat) : List Form → Tally → Tally
    | [], t => t
    | f :: fs, t =>
      let t := (f.tally limit d t).connect.add (if done = 1 then 2 else 0) 4
      tallyBranches limit d (done + 1) fs t

/-- The whole automaton. One that may start anywhere passes over what comes before; the whole
match is captured when reading forwards. -/
def automaton (limit : Nat) (d : Direction) (f : Form) : Tally :=
  let anchored := match d with
    | .forward => f.startsText
    | .backward => f.endsText
  let t := if anchored then Tally.init.add 1 0 else Tally.init.add 3 16
  match d with
  | .forward => ((f.tally limit d (t.add 1 0)).connect.add 2 0)
  | .backward => (f.tally limit d t).connect.add 1 0

end Form

/-- Whether both automata of the regex stay within the limit. -/
def Regex.fits (limit : Nat) (r : Regex) : Bool :=
  let f := Form.ofRegex r
  (f.automaton limit .forward).bytes ≤ limit && (f.automaton limit .backward).bytes ≤ limit

end UrlMask
