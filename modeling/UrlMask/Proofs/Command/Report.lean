import UrlMask.Command.Report

/-!
# What is seen of a report

The events of a report go to the log. What is seen of it is what was written and the result.

* `seen_bind_ok`, `seen_bind_error`: two steps one after the other.
* `seen_built`, `seen_ask`, `seen_create`: the steps with masks.
-/
namespace UrlMask.Report

variable {α β : Type} {r : Report α} {f : α → Report β} {out : List Char}

/-- What was written, and the result. -/
def seen (r : Report α) : List Char × Except Command.Fault α := (r.output, r.result)

@[simp] theorem seen_pure (a : α) : (Report.pure a).seen = ([], .ok a) := rfl

@[simp] theorem seen_return (a : α) : (Pure.pure a : Report α).seen = ([], .ok a) := rfl

@[simp] theorem seen_fail (e : Command.Fault) : (fail e : Report α).seen = ([], .error e) := rfl

@[simp] theorem seen_writeLine (s : List Char) : (writeLine s).seen = (s ++ ['\n'], .ok ()) := rfl

theorem seen_bind_ok {a : α} (h : r.seen = (out, .ok a)) :
    (r >>= f).seen = (out ++ (f a).seen.1, (f a).seen.2) := by
  cases r
  cases h
  rfl

theorem seen_bind_error {e : Command.Fault} (h : r.seen = (out, .error e)) :
    (r >>= f).seen = (out, .error e) := by
  cases r
  cases h
  rfl

/-- After a step that writes nothing, the next one decides. -/
theorem seen_bind_silent {a : α} (h : r.seen = ([], .ok a)) : (r >>= f).seen = (f a).seen := by
  rw [seen_bind_ok h]
  rfl

@[simp] theorem seen_during (t : Command.Task) (r : Report α) :
    (during t r).seen = (r.seen.1, r.seen.2.mapError (.during t)) := rfl

/-- What was being done in two steps was being done in each. -/
theorem during_bind (t : Command.Task) (r : Report α) (f : α → Report β) :
    during t (r >>= f) = during t r >>= fun a => during t (f a) := by
  obtain ⟨out, events, result⟩ := r
  cases result <;> rfl

@[simp] theorem seen_built (r : Except Mask.Fault Mask) :
    (built r).seen = ([], r.mapError .mask) := by
  cases r <;> rfl

@[simp] theorem seen_ask (m : Mask) (url : List Char) :
    (ask m url).seen = ([], .ok (m.accepts url)) := rfl

@[simp] theorem seen_create (m : Mask) (url : String) :
    (create m url).seen = ([], (m.requestFor url).mapError .request) := by
  unfold create
  cases m.requestFor url <;> rfl

end UrlMask.Report
