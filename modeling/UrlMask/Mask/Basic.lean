import UrlMask.Mask.Fault
import UrlMask.Mask.Layout
import UrlMask.Regex.Meaning
import UrlMask.Regex.Parser
import UrlMask.Regex.Search
import UrlMask.Regex.Size
import UrlMask.Request.Basic
import UrlMask.Text.Blank

/-!
# Masks

A mask describes URLs: outside square brackets it stands for itself, inside them it is a regex. A
mask is compiled once and then asked whether a text matches as a whole. With it goes the template
of the requests that are made for matching URLs.

* `Mask.sourceOf`: the regex source of the text of a mask.
* `Mask.ofText`: the compiled mask, or why it is refused.
* `Mask.accepts`: whether a text matches.
* `Mask.requestFor`: the request for a URL.
-/
namespace UrlMask

namespace Mask

/-- The regex source of a mask. Blanks at its ends do not count, and something has to be left. -/
def sourceOf (text : List Char) : Except Fault (List Char) :=
  if (Text.trim text).isEmpty then .error (.malformed text .blank)
  else .ok (Layout.ofText (Text.trim text)).source

/-- A compiled regex, with the names written in its source. -/
structure Compiled where
  regex : Regex
  /-- The capture groups that have names. -/
  names : List (Nat × String)

/-- Compiles a regex source within a limit of size. -/
def compile (limit : Nat) (source : List Char) : Except Reason Compiled :=
  match Regex.Parsed.ofText source with
  | .error f => .error (.regex f source)
  | .ok p =>
    match p.ast.meaning .init with
    | .error f => .error (.regex f source)
    | .ok (r, _) => if r.fits limit then .ok ⟨r, p.names⟩ else .error (.tooLarge limit)

/-- The limit of size where none is given: ten mebibytes. -/
def defaultLimit : Nat := 10 * Nat.pow 2 20

/-- The fields of requests, by name. -/
abbrev Template := Members

/-- The template that a value stands for. -/
def templateOf (v : Json) : Except Fault Template :=
  match v with
  | .object m => .ok m
  | _ => .error (.invalidTemplate v.kind)

end Mask

/-- A compiled mask with the template of its requests. -/
structure Mask where
  /-- The text as given, blanks included. -/
  text : List Char
  source : List Char
  compiled : Mask.Compiled
  template : Mask.Template

namespace Mask

/-- Compiles a mask within a limit of size. -/
def ofText (text : List Char) (template : Template) (limit : Nat) : Except Fault Mask :=
  match sourceOf text with
  | .error f => .error f
  | .ok s =>
    match compile limit s with
    | .error r => .error (.malformed text r)
    | .ok c => .ok ⟨text, s, c, template⟩

/-- Compiles a mask given as a value, with a template given as a value. -/
def ofJson (text : Json) (template : Option Json) : Except Fault Mask := do
  match text with
  | .string s =>
    let t ← match template with
      | some v => templateOf v
      | none => .ok []
    ofText s.toList t defaultLimit
  | _ => .error (.invalidArgument "purl" "a string")

/-- Whether the whole of a text matches. -/
def accepts (m : Mask) (url : List Char) : Bool := m.compiled.regex.finds url

/-- Whether a value is a text that matches. -/
def acceptsJson (m : Mask) (v : Json) : Bool := v.string?.any fun s => m.accepts s.toList

/-- The name of each capture group up to the last, if it has one; the group of the whole match
comes first. A number that is no group of the regex has no name. -/
def groupNames (m : Mask) : List (Option String) :=
  let groups := m.compiled.regex.groups
  none :: (List.range (groups.foldl max 0)).map fun i =>
    if groups.contains (i + 1) then (m.compiled.names.find? (·.1 == i + 1)).map (·.2) else none

/-- The fields of the request for a URL: those of the template, with this URL whatever stands in
its place there. -/
def fieldsFor (m : Mask) (url : String) : Members :=
  Members.insert Request.Field.url.name (.string url) m.template

/-- The request for a URL. It is not asked whether the URL matches. -/
def requestFor (m : Mask) (url : String) : Except Request.Fault Request :=
  Request.ofFields (m.fieldsFor url)

end Mask

end UrlMask
