import UrlMask.Regex.Ast
import UrlMask.Regex.Fault
import UrlMask.Unicode.Age
import UrlMask.Unicode.Break
import UrlMask.Unicode.Category
import UrlMask.Unicode.Property
import UrlMask.Unicode.Script

/-!
# Classes named by a property

`PropertyQuery.resolve` finds the set of characters that `\p` asks for. Names are compared
loosely: case, blanks, hyphens, underscores and a leading "is" do not count.
-/
namespace UrlMask.Regex

/-- The name as it is compared. A lone "c" that had "is" before it is "isc", which names a
property of its own. -/
def looseName (name : String) : String :=
  let cs := name.toList
  let lower := cs.map Char.toLower
  let stripped := ['i', 's'].isPrefixOf lower
  let kept := (if stripped then lower.drop 2 else lower).filter fun c =>
    c.toNat < 0x80 && c != ' ' && c != '_' && c != '-'
  String.ofList (if stripped && kept == ['c'] then ['i', 's', 'c'] else kept)

namespace PropertyQuery

open Unicode

/-- Every assigned character. -/
def assigned : CharSet := (Category.set [.unassigned]).compl

/-- The set of a general category, if the name is that of one. -/
def category? (name : String) : Option (Except Cause CharSet) :=
  match name with
  | "any" => some (.ok .all)
  | "assigned" => some (.ok assigned)
  | "ascii" => some (.ok (.range 0 0x7F))
  | "cs" | "surrogate" => some (.error .propertyValueNotFound)
  | _ => (Category.ofName? name).map fun cs => .ok (Category.set cs)

/-- The set of a script, if the name is that of one. -/
def script? (name : String) : Option (Except Cause CharSet) :=
  match name with
  | "unknown" | "zzzz" => some (.error .propertyValueNotFound)
  | _ => (Script.ofName? name).map fun k => .ok (Script.set k)

/-- A class given by one name: a binary property, a category or a script. -/
def resolveName (name : String) : Except Cause CharSet :=
  if name != "cf" && name != "sc" && name != "lc" && Property.isName name then
    match Property.ofName? name with
    | some s => .ok s
    | none => .error .propertyNotFound
  else
    match (category? name).or (script? name) with
    | some r => r
    | none => .error .propertyNotFound

/-- The answer, or that there is no such value. -/
def orNoValue (r : Option CharSet) : Except Cause CharSet :=
  match r with
  | some s => .ok s
  | none => .error .propertyValueNotFound

/-- A class given by a property and a value. -/
def resolveValue (property value : String) : Except Cause CharSet :=
  match property with
  | "gc" | "generalcategory" => (category? value).getD (.error .propertyValueNotFound)
  | "sc" | "script" => (script? value).getD (.error .propertyValueNotFound)
  | "scx" | "scriptextensions" => orNoValue ((Script.ofName? value).map Script.extended)
  | "age" => orNoValue ((Age.ofName? value).map Age.upTo)
  | "gcb" | "graphemeclusterbreak" => orNoValue (Break.grapheme.set? value)
  | "wb" | "wordbreak" => orNoValue (Break.word.set? value)
  | "sb" | "sentencebreak" => orNoValue (Break.sentence.set? value)
  | _ => .error (if Property.isName property then .propertyValueNotFound else .propertyNotFound)

/-- The set of characters that the query asks for. -/
def resolve : PropertyQuery → Except Cause CharSet
  | name n => resolveName (looseName n)
  | value p v => resolveValue (looseName p) (looseName v)

end PropertyQuery

end UrlMask.Regex
