import UrlMask.Command.Report
import UrlMask.Json.Parser
import UrlMask.Text.Utf8

/-!
# Commands

* `Command.compile`: writes the regex of a mask.
* `Command.check`: writes for each URL whether it matches a mask.
* `Command.request`: writes the request for a URL that matches.
* `Command.filter`: writes a line for each URL of a list that matches one of several masks.
-/
namespace UrlMask.Command

/-! ## Compile -/

/-- Writes the regex of a mask. -/
def compile (mask : String) : Report Unit :=
  match Mask.sourceOf mask.toList with
  | .ok s => .writeLine s
  | .error f => .fail (.mask f)

/-! ## Check -/

/-- How it is said whether a URL matches. -/
def verdict (b : Bool) : List Char := (if b then "match" else "no-match").toList

/-- Writes for each URL whether it matches. Gives the number of those that do not. -/
def checkEach (m : Mask) : List String → Report Nat
  | [] => .pure 0
  | u :: us => do
    let b ← Report.ask m u.toList
    Report.writeLine (verdict b ++ '\t' :: u.toList)
    let n ← checkEach m us
    return if b then n else n + 1

/-- Writes for each URL whether it matches. Where all have to, it fails if some do not. -/
def check (c : Config) (mask : String) (urls : List String) (all : Bool) : Report Unit := do
  let m ← Report.built (Mask.ofText mask.toList [] c.sizeLimit)
  let misses ← checkEach m urls
  if all && misses != 0 then Report.fail (.missed misses urls.length mask)

/-! ## Request -/

/-- The template that a text stands for, if one is given. -/
def template (text : Option String) : Report Mask.Template :=
  match text with
  | none => .pure []
  | some s =>
    match Json.parse s.toList with
    | .error f => .during .readTemplate (.fail (.json f))
    | .ok v =>
      match Mask.templateOf v with
      | .error f => .fail (.mask f)
      | .ok t => .pure t

/-- Writes the request for a URL, which has to match. -/
def request (c : Config) (mask url : String) (templateText : Option String) : Report Unit := do
  let t ← template templateText
  let m ← Report.built (Mask.ofText mask.toList t c.sizeLimit)
  let b ← Report.ask m url.toList
  if !b then Report.fail (.unmatched url mask)
  else
    let r ← Report.create m url
    Report.writeLine r.toJson.pretty

/-! ## Filter -/

/-- Builds masks without templates, each labelled with its text. -/
def buildGiven (limit : Nat) : List String → Report (List (String × Mask))
  | [] => .pure []
  | t :: ts => do
    let m ← Report.built (Mask.ofText t.toList [] limit)
    let ms ← buildGiven limit ts
    return (t, m) :: ms

/-- Builds the patterns of a configuration. -/
def buildConfigured (limit : Nat) : List Pattern → Report (List (String × Mask))
  | [] => .pure []
  | p :: ps => do
    let m ← Report.during (.buildPattern p.label) (Report.built (p.build limit))
    let ms ← buildConfigured limit ps
    return (p.label, m) :: ms

/-- The first mask that matches, with its label. -/
def firstMatch (url : List Char) : List (String × Mask) → Report (Option (String × Mask))
  | [] => .pure none
  | e :: es => do
    let b ← Report.ask e.2 url
    if b then return some e else firstMatch url es

/-- The pieces of a list of bytes between line ends; the last one counts if it is not empty. -/
def pieces : List UInt8 → List (List UInt8)
  | [] => []
  | b :: bs =>
    if b = 10 then [] :: pieces bs
    else
      match pieces bs with
      | [] => [[b]]
      | p :: ps => (b :: p) :: ps

/-- The object that is written for a URL that matches. -/
def hit (label : String) (r : Request) : Json :=
  .object [("pattern", .string label), ("request", r.toJson)]

/-- Looks at one line. Gives whether it matched. -/
def filterLine (masks : List (String × Mask)) (line : List UInt8) : Report Bool :=
  match Utf8.decode? line with
  | none => .during .readUrls (.fail (.unreadable .notText))
  | some s => do
    let url := Text.trim s
    if url.isEmpty then return false
    match ← firstMatch url masks with
    | none => return false
    | some (label, m) =>
      let url := String.ofList url
      let r ← Report.during (.createRequest url) (Report.create m url)
      Report.writeLine (hit label r).compact
      return true

/-- Looks at lines in order. Gives the number of those that matched. -/
def filterLines (masks : List (String × Mask)) : List (List UInt8) → Report Nat
  | [] => .pure 0
  | l :: ls => do
    let b ← filterLine masks l
    let n ← filterLines masks ls
    return if b then n + 1 else n

/-- The masks to filter by: those given, or else those configured. -/
def filterMasks (c : Config) (given : List String) : Report (List (String × Mask)) := do
  let masks ← if given.isEmpty then buildConfigured c.sizeLimit c.patterns
    else buildGiven c.sizeLimit given
  if masks.isEmpty then Report.fail .noPatterns else return masks

/-- Writes for each URL of a list the request that the first matching mask makes. Gives the
number of URLs that matched. -/
def filter (c : Config) (given : List String) (input : Except Unreadable (List UInt8)) :
    Report Nat := do
  let masks ← filterMasks c given
  match input with
  | .error f => Report.during .readUrls (Report.fail (.unreadable f))
  | .ok bytes => filterLines masks (pieces bytes)

end UrlMask.Command
