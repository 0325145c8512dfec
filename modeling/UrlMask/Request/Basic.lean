import UrlMask.Request.Fault
import UrlMask.Url.Key

/-!
# Requests

A request is a URL to fetch with what goes along with it. Requests are made from fields, given as
the members of an object: no other names are allowed, every value has to be of its kind, and only
the URL is required. The fields are looked at in the order of their names, and the first fault
counts.

* `Request.ofFields`: the request of some fields, or why there is none.
* `Request.fields`: the fields of a request, in the order in which they are written.
-/
namespace UrlMask

/-- A URL to fetch, and what goes along with it. -/
structure Request where
  url : String
  /-- The text by which requests for one resource are known. -/
  uniqueKey : String
  method : Method
  payload : Option String
  /-- The headers, sorted by name. -/
  headers : List (String × String)
  userData : Members
  keepUrlFragment : Bool
  retryCount : UInt32
  noRetry : Bool
  errorMessages : List String
  deriving Repr

namespace Request

/-! ## The values of fields -/

def mismatch (v : Json) (w : Wanted) : Field.Fault := .mismatch (.type (.ofJson v) w)

def readText (v : Json) : Except Field.Fault String :=
  match v.string? with
  | some s => .ok s
  | none => .error (mismatch v .text)

def readBoolean (v : Json) : Except Field.Fault Bool :=
  match v.bool? with
  | some b => .ok b
  | none => .error (mismatch v .boolean)

def readWord32 : Json → Except Field.Fault UInt32
  | .integer n =>
    if 0 ≤ n ∧ n < Nat.pow 2 32 then .ok (UInt32.ofNat n.toNat)
    else .error (.mismatch (.value (.integer n) .word32))
  | v => .error (mismatch v .word32)

/-- A text, or none where the value is null. -/
def readOptionalText : Json → Except Field.Fault (Option String)
  | .null => .ok none
  | v => (readText v).map some

def readTexts : Json → Except Field.Fault (List String)
  | .array l => l.mapM readText
  | v => .error (mismatch v .sequence)

def readMembers : Json → Except Field.Fault Members
  | .object m => .ok m
  | v => .error (mismatch v .map)

def readTextMembers : Json → Except Field.Fault (List (String × String))
  | .object m => m.mapM fun e => (readText e.2).map (e.1, ·)
  | v => .error (mismatch v .map)

/-! ## Drafts -/

/-- What is known of a request while its fields are read. -/
structure Draft where
  url : Option String := none
  uniqueKey : String := ""
  method : Method := .get
  payload : Option String := none
  headers : List (String × String) := []
  userData : Members := []
  keepUrlFragment : Bool := false
  retryCount : UInt32 := 0
  noRetry : Bool := false
  errorMessages : List String := []

namespace Draft

/-- Sets a field to a value. -/
def set (d : Draft) (f : Field) (v : Json) : Except Field.Fault Draft :=
  match f with
  | .url => (readText v).map fun x => { d with url := some x }
  | .uniqueKey => (readText v).map fun x => { d with uniqueKey := x }
  | .method =>
    match Method.ofJson v with
    | .ok x => .ok { d with method := x }
    | .error f => .error (.method f)
  | .payload => (readOptionalText v).map fun x => { d with payload := x }
  | .headers => (readTextMembers v).map fun x => { d with headers := x }
  | .userData => (readMembers v).map fun x => { d with userData := x }
  | .keepUrlFragment => (readBoolean v).map fun x => { d with keepUrlFragment := x }
  | .retryCount => (readWord32 v).map fun x => { d with retryCount := x }
  | .noRetry => (readBoolean v).map fun x => { d with noRetry := x }
  | .errorMessages => (readTexts v).map fun x => { d with errorMessages := x }

/-- Sets the field of this name, if there is one. -/
def setNamed (d : Draft) (e : String × Json) : Except Field.Fault Draft :=
  match Field.ofName? e.1 with
  | some f => d.set f e.2
  | none => .error (.unknown e.1)

def ofFields (m : Members) : Except Field.Fault Draft := m.foldlM setNamed {}

/-- Where no key is given, it is that of the URL. -/
def key (d : Draft) (u : Url) : String :=
  if d.uniqueKey.isEmpty then String.ofList (u.uniqueKey d.keepUrlFragment) else d.uniqueKey

/-- The request of a draft. The URL is looked at before the payload. -/
def finish (d : Draft) : Except Fault Request :=
  match d.url with
  | none => .error (.invalidFields .missingUrl)
  | some url =>
    match Url.parse url.toList with
    | .error f => .error (.invalidUrl url f)
    | .ok u =>
      if d.payload.isSome ∧ !d.method.allowsPayload then .error (.payloadNotAllowed d.method)
      else
        .ok {
          url := url, uniqueKey := d.key u, method := d.method, payload := d.payload,
          headers := d.headers, userData := d.userData, keepUrlFragment := d.keepUrlFragment,
          retryCount := d.retryCount, noRetry := d.noRetry, errorMessages := d.errorMessages }

end Draft

/-- The request of some fields. -/
def ofFields (m : Members) : Except Fault Request :=
  match Draft.ofFields m with
  | .error f => .error (.invalidFields f)
  | .ok d => d.finish

/-- The request for a URL and nothing else. -/
def ofUrl (url : String) : Except Fault Request := ofFields [(Field.url.name, .string url)]

/-! ## Writing -/

/-- The fields in the order in which they are written. A payload that is not there is left
out. -/
def fields (r : Request) : List (String × Json) :=
  [(Field.url.name, .string r.url),
   (Field.uniqueKey.name, .string r.uniqueKey),
   (Field.method.name, .string r.method.name)] ++
  (match r.payload with
   | some p => [(Field.payload.name, .string p)]
   | none => []) ++
  [(Field.headers.name, .object (r.headers.map fun e => (e.1, .string e.2))),
   (Field.userData.name, .object r.userData),
   (Field.keepUrlFragment.name, .bool r.keepUrlFragment),
   (Field.retryCount.name, .integer r.retryCount.toNat),
   (Field.noRetry.name, .bool r.noRetry),
   (Field.errorMessages.name, .array (r.errorMessages.map .string))]

/-- The request as an object, in the order of writing. -/
def toJson (r : Request) : Json := .object r.fields

end Request

end UrlMask
