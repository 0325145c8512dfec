import UrlMask.Mismatch

/-!
# Request methods

The nine methods, each with its name in capitals. A request whose method is `GET` or `HEAD` has
no payload.

* `Method.ofName?`: the method of a name; it undoes `Method.name` (`Method.ofName?_name`).
* `Method.ofJson`: the method that a value stands for.
-/
namespace UrlMask

/-- What a request asks for. -/
inductive Method where
  | get
  | head
  | post
  | put
  | delete
  | patch
  | options
  | trace
  | connect
  deriving DecidableEq, Repr, Inhabited

namespace Method

def all : List Method := [get, head, post, put, delete, patch, options, trace, connect]

def name : Method → String
  | get => "GET"
  | head => "HEAD"
  | post => "POST"
  | put => "PUT"
  | delete => "DELETE"
  | patch => "PATCH"
  | options => "OPTIONS"
  | trace => "TRACE"
  | connect => "CONNECT"

/-- Whether a request of this method may carry a payload. -/
def allowsPayload : Method → Bool
  | get | head => false
  | _ => true

def ofName? (s : String) : Option Method := all.find? fun m => m.name == s

theorem ofName?_name (m : Method) : ofName? m.name = some m := by
  cases m <;> decide

/-- Why a value stands for no method. -/
inductive Fault where
  | mismatch (m : Mismatch)
  | unknown (name : String)

/-- Names in accents grave, with commas between them. -/
def listed (names : List String) : String :=
  ", ".intercalate (names.map fun s => s!"`{s}`")

def Fault.message : Fault → String
  | mismatch m => m.message
  | unknown s => s!"unknown variant `{s}`, expected one of {listed (all.map name)}"

/-- The method of a name, or the fault that there is none. -/
def ofName (s : String) : Except Fault Method :=
  match ofName? s with
  | some m => .ok m
  | none => .error (.unknown s)

/-- The method that a value stands for: a name, or an object with that name as its only key and
nothing under it. -/
def ofJson (v : Json) : Except Fault Method :=
  match v with
  | .string s => ofName s
  | .object [(k, v)] =>
    match ofName k, v with
    | .error f, _ => .error f
    | .ok m, .null => .ok m
    | .ok _, v => .error (.mismatch (.type (.ofJson v) .nothing))
  | .object _ => .error (.mismatch (.value .map .singleKey))
  | v => .error (.mismatch (.type (.ofJson v) .name))

end Method

end UrlMask
