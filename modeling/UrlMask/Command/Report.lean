import UrlMask.Command.Fault
import UrlMask.Log.Event

/-!
# Reports

Running a command comes to a report: the text that was written, the events that happened, and the
result or the fault that ended the run. What was written before a fault stays written.

* `Report.write`, `Report.note`, `Report.fail`: the single steps.
* `Report` is a monad: `bind` goes on where there is a result, and keeps everything in order.
-/
namespace UrlMask

/-- What running something comes to. -/
structure Report (α : Type) where
  output : List Char
  events : List Event
  result : Except Command.Fault α

namespace Report

def pure (a : α) : Report α := ⟨[], [], .ok a⟩

def bind (r : Report α) (f : α → Report β) : Report β :=
  match r.result with
  | .error e => ⟨r.output, r.events, .error e⟩
  | .ok a => ⟨r.output ++ (f a).output, r.events ++ (f a).events, (f a).result⟩

instance : Monad Report where
  pure := pure
  bind := bind

def write (s : List Char) : Report Unit := ⟨s, [], .ok ()⟩

/-- Writes a line. -/
def writeLine (s : List Char) : Report Unit := write (s ++ ['\n'])

def note (e : Event) : Report Unit := ⟨[], [e], .ok ()⟩

def fail (f : Command.Fault) : Report α := ⟨[], [], .error f⟩

/-- Says of a fault what was being done. -/
def during (t : Command.Task) (r : Report α) : Report α :=
  { r with result := r.result.mapError (.during t) }

/-! ## Steps with masks -/

/-- Takes a mask that was built, and notes it. -/
def built (r : Except Mask.Fault Mask) : Report Mask :=
  match r with
  | .ok m => ⟨[], [.maskCompiled m], .ok m⟩
  | .error f => fail (.mask f)

/-- Asks a mask whether it matches. -/
def ask (m : Mask) (url : List Char) : Report Bool :=
  ⟨[], [.asked m url (m.accepts url)], .ok (m.accepts url)⟩

/-- Makes the request for a URL. -/
def create (m : Mask) (url : String) : Report Request :=
  match m.requestFor url with
  | .ok r => ⟨[], [.requestCreated m r], .ok r⟩
  | .error f => fail (.request f)

end Report

end UrlMask
