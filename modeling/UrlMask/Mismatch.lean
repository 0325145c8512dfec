import UrlMask.Json.Printer
import UrlMask.Text.Quoted

/-!
# Values that are not what was wanted

Where a value of one kind is wanted and another is found, the message names both.

* `Found`: how a value that was found is named.
* `Wanted`: what was wanted in its place.
* `Mismatch`: the two together.
-/
namespace UrlMask

/-- What was found. Numbers are shown as they were given, texts in quotation marks. -/
inductive Found where
  | null
  | boolean (b : Bool)
  | integer (n : Int)
  /-- A floating-point number, by its text. -/
  | float (text : List Char)
  | text (s : String)
  | sequence
  | map

def Found.message : Found → String
  | null => "null"
  | boolean b => s!"boolean `{b}`"
  | integer n => s!"integer `{String.ofList (Json.integerText n)}`"
  | float t => s!"floating point `{String.ofList t}`"
  | text s => s!"string {String.ofList (Text.quoted s.toList)}"
  | sequence => "sequence"
  | map => "map"

def Found.ofJson : Json → Found
  | .null => .null
  | .bool b => .boolean b
  | .integer n => .integer n
  | .float x => .float x.text
  | .string s => .text s
  | .array _ => .sequence
  | .object _ => .map

/-- What was wanted. -/
inductive Wanted where
  | nothing
  | boolean
  | text
  | sequence
  | map
  /-- An integer of 32 bits without sign. -/
  | word32
  /-- An integer of the size of an address, without sign. -/
  | size
  /-- A name, or a map from that name. -/
  | name
  | singleKey
  /-- An entry of the list of patterns. -/
  | patternEntry
  deriving DecidableEq, Repr

def Wanted.message : Wanted → String
  | nothing => "unit"
  | boolean => "a boolean"
  | text => "a string"
  | sequence => "a sequence"
  | map => "a map"
  | word32 => "u32"
  | size => "usize"
  | name => "string or map"
  | singleKey => "map with a single key"
  | patternEntry => "struct PatternEntry"

/-- A value that is not what was wanted. -/
inductive Mismatch where
  /-- It is of another type. -/
  | type (found : Found) (wanted : Wanted)
  /-- It is of the right type, but beyond what was wanted. -/
  | value (found : Found) (wanted : Wanted)

def Mismatch.message : Mismatch → String
  | type f w => s!"invalid type: {f.message}, expected {w.message}"
  | value f w => s!"invalid value: {f.message}, expected {w.message}"

end UrlMask
