import UrlMask.Decimal.Shortest
import UrlMask.Text.Order

/-!
# JSON values

Whole numbers and floating-point numbers are different values. The members of an object are kept
in the order of their keys, and each key occurs once: `Members.insert` keeps it so.
-/
namespace UrlMask

/-- A JSON value. -/
inductive Json where
  | null
  | bool (b : Bool)
  | integer (n : Int)
  | float (x : Binary64)
  | string (s : String)
  | array (items : List Json)
  | object (members : List (String × Json))
  deriving Repr

/-- The members of an object, sorted by key. -/
abbrev Members := List (String × Json)

namespace Members

/-- Sets the value of a key. -/
def insert (k : String) (v : Json) : Members → Members
  | [] => [(k, v)]
  | (k', v') :: r =>
    if k = k' then (k, v) :: r
    else if Text.precedes k.toList k'.toList then (k, v) :: (k', v') :: r
    else (k', v') :: insert k v r

/-- The members in the order of their keys; of two with one key the later stays. -/
def ofList (l : List (String × Json)) : Members := l.foldl (fun m e => insert e.1 e.2 m) []

def get? (m : Members) (k : String) : Option Json := (m.find? (·.1 == k)).map (·.2)

def erase (m : Members) (k : String) : Members := m.filter (·.1 != k)

end Members

namespace Json

/-- What sort of value it is, in one word. -/
def kind : Json → String
  | null => "null"
  | bool _ => "boolean"
  | integer _ | float _ => "number"
  | string _ => "string"
  | array _ => "array"
  | object _ => "object"

/-- Whether two values are equal; the two zeros of floating-point numbers are. -/
def same : Json → Json → Bool
  | null, null => true
  | bool a, bool b => a == b
  | integer a, integer b => a == b
  | float a, float b => a.same b
  | string a, string b => a == b
  | array a, array b => sameItems a b
  | object a, object b => sameMembers a b
  | _, _ => false
where
  sameItems : List Json → List Json → Bool
    | [], [] => true
    | a :: as, b :: bs => a.same b && sameItems as bs
    | _, _ => false
  sameMembers : List (String × Json) → List (String × Json) → Bool
    | [], [] => true
    | (k, a) :: as, (l, b) :: bs => k == l && a.same b && sameMembers as bs
    | _, _ => false

def string? : Json → Option String
  | string s => some s
  | _ => none

def bool? : Json → Option Bool
  | bool b => some b
  | _ => none

/-- The member of this name, if the value is an object that has one. -/
def get? (j : Json) (k : String) : Option Json :=
  match j with
  | object m => Members.get? m k
  | _ => none

end Json

end UrlMask
