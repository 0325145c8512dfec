import UrlMask.Command.Basic
import UrlMask.Proofs.Command.Report

/-!
# What checking comes to

A check writes one line for each URL, in the order in which they are given. What it says of a URL
depends on the mask and on this URL alone.

* `verdictLine`, `checkLine`: the line of a URL.
* `misses`: how many URLs do not match.
* `seen_check_of_error`, `seen_check_of_ok`: what is seen of a check, with a mask or without.
-/
namespace UrlMask.Command

open Report

variable {c : Config} {mask : String} {m : Mask} {urls : List String} {all : Bool}

/-- The line that says of a URL whether it matches. -/
def verdictLine (b : Bool) (url : String) : List Char := verdict b ++ '\t' :: (url.toList ++ ['\n'])

/-- The line that is written for a URL. -/
def checkLine (m : Mask) (url : String) : List Char := verdictLine (m.accepts url.toList) url

/-- The number of URLs that do not match. -/
def misses (m : Mask) (urls : List String) : Nat := urls.countP fun u => !m.accepts u.toList

theorem seen_checkEach (m : Mask) (urls : List String) :
    (checkEach m urls).seen = (urls.flatMap (checkLine m), .ok (misses m urls)) := by
  induction urls with
  | nil => rfl
  | cons u us ih =>
    rw [checkEach, seen_bind_silent (seen_ask m u.toList), seen_bind_ok (seen_writeLine _),
      seen_bind_ok ih]
    cases h : m.accepts u.toList <;> simp [checkLine, verdictLine, misses, h]

/-- Without a mask nothing is written. -/
theorem seen_check_of_error {f : Mask.Fault}
    (h : Mask.ofText mask.toList [] c.sizeLimit = .error f) :
    (check c mask urls all).seen = ([], .error (.mask f)) :=
  seen_bind_error ((seen_built _).trans (by rw [h]; rfl))

/-- With a mask there is a line for each URL. Whether some did not match matters only where all
have to. -/
theorem seen_check_of_ok (h : Mask.ofText mask.toList [] c.sizeLimit = .ok m) :
    (check c mask urls all).seen = (urls.flatMap (checkLine m),
      if all && misses m urls != 0 then .error (.missed (misses m urls) urls.length mask)
      else .ok ()) := by
  rw [check, seen_bind_silent ((seen_built _).trans (by rw [h]; rfl)),
    seen_bind_ok (seen_checkEach m urls)]
  split <;> simp

end UrlMask.Command
