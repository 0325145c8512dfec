import UrlMask.Mask.Basic

/-!
# Configurations

A configuration holds a limit for the size of masks and the patterns that are used where none are
given. A pattern is a mask with a label and a template, all as they stand in the configuration:
nothing is compiled before it is needed.

* `Pattern.build`: the mask of a pattern, or why there is none.
* `Config.shown`: the configuration on one line.
-/
namespace UrlMask

/-- A pattern of a configuration. -/
structure Pattern where
  name : Option String := none
  mask : String
  template : Option Json := none
  deriving Repr

namespace Pattern

/-- The name of the pattern, or its mask where it has none. -/
def label (p : Pattern) : String := p.name.getD p.mask

/-- The fields of its requests. -/
def fields (p : Pattern) : Except Mask.Fault Mask.Template :=
  match p.template with
  | some v => Mask.templateOf v
  | none => .ok []

/-- The mask of the pattern. The template is looked at first. -/
def build (p : Pattern) (limit : Nat) : Except Mask.Fault Mask :=
  match p.fields with
  | .error f => .error f
  | .ok t => Mask.ofText p.mask.toList t limit

end Pattern

/-- What can be configured. -/
structure Config where
  /-- How many bytes a compiled mask may take. -/
  sizeLimit : Nat := Mask.defaultLimit
  patterns : List Pattern := []
  deriving Repr

namespace Config

/-- The text of the configuration that is written where there is none. -/
def initialText : String :=
  s!"regex_size_limit = {String.ofList (decimalDigits Mask.defaultLimit)}\npatterns = []\n"

/-! ## Showing -/

/-- A value with the kinds of its parts. -/
def shownValue : Json → List Char
  | .null => "Null".toList
  | .bool b => "Bool(".toList ++ (Json.bool b).scalar ++ [')']
  | .integer n => "Number(".toList ++ Json.integerText n ++ [')']
  | .float x => "Number(".toList ++ x.text ++ [')']
  | .string s => "String(".toList ++ Text.quoted s.toList ++ [')']
  | .array l => "Array [".toList ++ items l ++ [']']
  | .object m => "Object \x7b".toList ++ members m ++ ['\x7d']
where
  items : List Json → List Char
    | [] => []
    | [j] => shownValue j
    | j :: js => shownValue j ++ ',' :: ' ' :: items js
  members : List (String × Json) → List Char
    | [] => []
    | [(k, j)] => Text.quoted k.toList ++ ':' :: ' ' :: shownValue j
    | (k, j) :: ms =>
      Text.quoted k.toList ++ ':' :: ' ' :: (shownValue j ++ ',' :: ' ' :: members ms)

/-- A part that may be missing. -/
def shownOption (o : Option (List Char)) : List Char :=
  match o with
  | some s => "Some(".toList ++ s ++ [')']
  | none => "None".toList

def shownPattern (p : Pattern) : List Char :=
  "PatternEntry \x7b name: ".toList ++ shownOption (p.name.map fun s => Text.quoted s.toList) ++
    ", purl: ".toList ++ Text.quoted p.mask.toList ++
    ", template: ".toList ++ shownOption (p.template.map shownValue) ++ " \x7d".toList

/-- Texts with a comma between any two. -/
def separated : List (List Char) → List Char
  | [] => []
  | [s] => s
  | s :: r => s ++ ',' :: ' ' :: separated r

/-- The configuration on one line, as the log shows it. -/
def shown (c : Config) : List Char :=
  "PurlConfig \x7b regex_size_limit: ".toList ++ decimalDigits c.sizeLimit ++
    ", patterns: [".toList ++ separated (c.patterns.map shownPattern) ++ "] \x7d".toList

end Config

end UrlMask
