import UrlMask.Regex.Basic

/-!
# Searching a text

A regex is laid over a text: each leaf becomes the set of places at which it can be passed. From
a set of places where spans may start, `Track.image` gives the places where they may end, so a
search goes through the text once, whatever the regex. Sets of places are kept as the bits of a
number; place `i` lies before character `i`.

* `Track.image`: the ends of the described spans that start in a set of places.
* `Regex.finds`: whether some span of the text is described.
-/
namespace UrlMask

namespace Places

/-- The places before the characters that satisfy `p`. -/
def before (p : Char → Bool) : List Char → Nat
  | [] => 0
  | c :: cs => (if p c then 1 else 0) + 2 * before p cs

/-- The places where `p` holds of the characters on the two sides. -/
def between (p : Option Char → Option Char → Bool) (prev : Option Char) : List Char → Nat
  | [] => if p prev none then 1 else 0
  | c :: cs => (if p prev (some c) then 1 else 0) + 2 * between p (some c) cs

/-- Every place of a text of `n` characters, both ends included. -/
def all (n : Nat) : Nat := Nat.pow 2 (n + 1) - 1

/-- The places of `s` that are not in `t`. -/
def minus (s t : Nat) : Nat := s ^^^ (s &&& t)

/-- The places after `k` steps of `f`. Once a step changes nothing, no later one does. -/
def after (f : Nat → Nat) : Nat → Nat → Nat
  | 0, s => s
  | k + 1, s =>
    let t := f s
    if t = s then s else after f k t

/-- The places in `seen` and those that up to `k` steps of `f` add to them; `fresh` are the
places that were found last. -/
def within (f : Nat → Nat) : Nat → Nat → Nat → Nat
  | 0, seen, _ => seen
  | k + 1, seen, fresh =>
    let t := f fresh
    let new := minus t seen
    if new = 0 then seen else within f k (seen ||| t) new

end Places

/-- A regex laid over a text. -/
inductive Track where
  /-- Passes one character, from these places. -/
  | step (places : Nat)
  /-- Passes nothing, at these places. -/
  | stay (places : Nat)
  | seq (s t : Track)
  | alt (s t : Track)
  /-- `min` rounds, then up to `more` further ones. -/
  | repeat (min more : Nat) (t : Track)

namespace Track

/-- The places where the track can end, if it starts in one of the given places. -/
def image : Track → Nat → Nat
  | step m, s => (s &&& m) <<< 1
  | stay m, s => s &&& m
  | seq a b, s => b.image (a.image s)
  | alt a b, s => a.image s ||| b.image s
  | .repeat min more t, s =>
    let start := Places.after t.image min s
    Places.within t.image more start start

end Track

namespace Regex

/-- The regex laid over the text. Without a greatest number, rounds are repeated as often as
there are places: by then no round finds a new one. -/
def lay (text : List Char) : Regex → Track
  | empty => .stay (Places.all text.length)
  | set s => .step (Places.before s.has text)
  | look k => .stay (Places.between (fun p n => k.holds p n) none text)
  | seq r s => .seq (r.lay text) (s.lay text)
  | alt r s => .alt (r.lay text) (s.lay text)
  | group _ r => r.lay text
  | .repeat min max _ r =>
    .repeat min (match max with
      | some m => m - min
      | none => text.length + 1) (r.lay text)

/-- Whether some span of the text is described. -/
def finds (r : Regex) (text : List Char) : Bool :=
  (r.lay text).image (Places.all text.length) != 0

end Regex

end UrlMask
