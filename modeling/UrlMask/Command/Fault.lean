import UrlMask.Config.Basic
import UrlMask.Json.Fault

/-!
# Why a command fails

A fault is shown as a chain: what was being done, what went wrong with it, and what was behind
that, with colons in between.

* `Command.Fault.links`: the texts of the chain.
* `Command.Fault.message`: the chain.
* `Command.Fault.root`: the fault itself, without what was being done.
-/
namespace UrlMask.Command

/-- Why something cannot be read. -/
inductive Unreadable where
  | missing
  | directory
  /-- The bytes are not UTF-8. -/
  | notText
  /-- Any other reason that the system gives. -/
  | other (reason : String)
  deriving DecidableEq, Repr

def Unreadable.message : Unreadable → String
  | missing => "No such file or directory (os error 2)"
  | directory => "Is a directory (os error 21)"
  | notText => "stream did not contain valid UTF-8"
  | other reason => reason

/-- What was being done when a fault arose. -/
inductive Task where
  | buildPattern (label : String)
  | readTemplate
  | openFile (path : String)
  | readConfig (path : String)
  | readUrls
  | createRequest (url : String)
  deriving DecidableEq, Repr

def Task.message : Task → String
  | buildPattern label => s!"configured pattern '{label}'"
  | readTemplate => "parse --template JSON"
  | openFile path => s!"open {path}"
  | readConfig path => s!"read config: {path}"
  | readUrls => "read URL list"
  | createRequest url => s!"create request for {url}"

/-- Why a command fails. -/
inductive Fault where
  | mask (f : Mask.Fault)
  | request (f : Request.Fault)
  | json (f : Json.Fault)
  | unreadable (f : Unreadable)
  /-- All URLs had to match, and some did not. -/
  | missed (misses total : Nat) (mask : String)
  /-- The URL had to match. -/
  | unmatched (url mask : String)
  | noPatterns
  | during (task : Task) (f : Fault)

namespace Fault

/-- The texts of a request fault: the fault, and what is behind it. -/
def requestLinks (f : Request.Fault) : List String :=
  match f with
  | .invalidFields c => [f.message, c.message]
  | .invalidUrl _ c => [f.message, c.message]
  | .payloadNotAllowed _ => [f.message]

/-- The texts of the chain, outermost first. -/
def links : Fault → List String
  | mask f => [f.message]
  | request f => requestLinks f
  | json f => [f.message]
  | unreadable f => [f.message]
  | missed k n m =>
    [s!"{String.ofList (decimalDigits k)} of {String.ofList (decimalDigits n)} " ++
      s!"URLs did not match '{m}'"]
  | unmatched u m => [s!"URL '{u}' does not match '{m}'"]
  | noPatterns => ["no patterns: pass --purl or add [[patterns]] to config.toml"]
  | during t f => t.message :: links f

def message (f : Fault) : String := ": ".intercalate f.links

/-- The fault without what was being done. -/
def root : Fault → Fault
  | during _ f => f.root
  | f => f

end Fault

end UrlMask.Command
