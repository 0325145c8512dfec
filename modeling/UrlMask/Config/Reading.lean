import UrlMask.Config.Basic
import UrlMask.Toml.Parser

/-!
# Reading configurations

A configuration is a TOML document. Keys that it does not know are passed over, and what is not
given has its default. Entries are looked at in the order of the document, and the first that is
not what it should be counts.

* `Config.ofText`: the configuration of a text.
* `Config.Fault`: why a text is none.
-/
namespace UrlMask

namespace Config

/-- What can be wrong with the shape of a configuration. -/
inductive ShapeFault where
  | mismatch (m : Mismatch)
  /-- A pattern has no mask. -/
  | missingMask
  /-- A pattern that is given as an array has no second item, which would be its mask. -/
  | tooShort

/-- The keys of a configuration and of its patterns. -/
def sizeLimitKey : String := "regex_size_limit"
def patternsKey : String := "patterns"
def nameKey : String := "name"
def maskKey : String := "purl"
def templateKey : String := "template"

def ShapeFault.message : ShapeFault → String
  | mismatch m => m.message
  | missingMask => s!"missing field `{maskKey}`"
  | tooShort => s!"invalid length 1, expected {Wanted.patternEntry.message} with 3 elements"

/-- Why a text is no configuration. -/
inductive Fault where
  /-- It is no TOML document. At which place it goes wrong, and why, is not kept. -/
  | notToml
  | shape (f : ShapeFault)

/-- A value that was found where another was wanted. -/
def found : Toml → Found
  | .string s => .text s
  | .integer n => .integer n
  | .float x => .float x.text
  | .boolean b => .boolean b
  | .array _ => .sequence
  | .moment _ | .table _ => .map

def mismatch (v : Toml) (w : Wanted) : ShapeFault := .mismatch (.type (found v) w)

def readSize : Toml → Except ShapeFault Nat
  | .integer n => if 0 ≤ n then .ok n.toNat else .error (.mismatch (.value (.integer n) .size))
  | v => .error (mismatch v .size)

def readText : Toml → Except ShapeFault String
  | .string s => .ok s
  | v => .error (mismatch v .text)

/-- What is known of a pattern while its entries are read. -/
structure PatternDraft where
  name : Option String := none
  mask : Option String := none
  template : Option Json := none

/-- Sets what an entry of a pattern says. -/
def PatternDraft.set (d : PatternDraft) (e : String × Toml) : Except ShapeFault PatternDraft :=
  if e.1 = nameKey then (readText e.2).map fun s => { d with name := some s }
  else if e.1 = maskKey then (readText e.2).map fun s => { d with mask := some s }
  else if e.1 = templateKey then .ok { d with template := some e.2.toJson }
  else .ok d

def PatternDraft.finish (d : PatternDraft) : Except ShapeFault Pattern :=
  match d.mask with
  | some m => .ok ⟨d.name, m, d.template⟩
  | none => .error .missingMask

/-- Reads a pattern that is given as an array of its name, its mask and its template. -/
def readPatternItems : List Toml → Except ShapeFault Pattern
  | [] => .error .tooShort
  | [n] => (readText n).bind fun _ => .error .tooShort
  | n :: m :: r => do
    let name ← readText n
    let mask ← readText m
    .ok ⟨some name, mask, r.head?.map Toml.toJson⟩

def readPattern : Toml → Except ShapeFault Pattern
  | .table es => (es.foldlM PatternDraft.set {}).bind PatternDraft.finish
  | .array l => readPatternItems l
  | .moment _ => .error .missingMask
  | v => .error (mismatch v .patternEntry)

def readPatterns : Toml → Except ShapeFault (List Pattern)
  | .array l => l.mapM readPattern
  | v => .error (mismatch v .sequence)

/-- Sets what an entry of a configuration says. -/
def set (c : Config) (e : String × Toml) : Except ShapeFault Config :=
  if e.1 = sizeLimitKey then (readSize e.2).map fun n => { c with sizeLimit := n }
  else if e.1 = patternsKey then (readPatterns e.2).map fun ps => { c with patterns := ps }
  else .ok c

/-- The configuration of a table. -/
def ofEntries (es : List (String × Toml)) : Except ShapeFault Config := es.foldlM set {}

/-- The configuration of a text. -/
def ofText (text : List Char) : Except Fault Config :=
  match Toml.parse? text with
  | some (.table es) => (ofEntries es).mapError .shape
  | _ => .error .notToml

end Config

end UrlMask
