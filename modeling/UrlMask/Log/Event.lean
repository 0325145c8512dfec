import UrlMask.Config.Basic

/-!
# Events

What happens while the program runs is reported as events. Each has a level, the part of the
program that it comes from, and a message.

* `Event.level`, `Event.part`, `Event.message`: what a log line is made of.
* `Event.line`: the line itself, without its time.
-/
namespace UrlMask

/-- How important an event is, most important first. -/
inductive Level where
  | error
  | warn
  | info
  | debug
  | trace
  deriving DecidableEq, Repr

namespace Level

def name : Level → String
  | error => "ERROR"
  | warn => "WARN"
  | info => "INFO"
  | debug => "DEBUG"
  | trace => "TRACE"

/-- How much is reported at this level: the greater, the more. -/
def verbosity : Level → Nat
  | error => 1
  | warn => 2
  | info => 3
  | debug => 4
  | trace => 5

end Level

/-- Something that happened. -/
inductive Event where
  /-- The log was opened, at this path. -/
  | logOpened (path : String)
  /-- There was no configuration, and one was written to this path. -/
  | configCreated (path : String)
  | configLoaded (config : Config)
  | maskCompiled (mask : Mask)
  /-- A mask was asked whether it matches a text. -/
  | asked (mask : Mask) (url : List Char) (answer : Bool)
  | requestCreated (mask : Mask) (request : Request)
  /-- All URLs of a list were read, and so many of them matched. -/
  | listDone (hits : Nat)

namespace Event

def level : Event → Level
  | logOpened _ | configCreated _ | listDone _ => .info
  | configLoaded _ | maskCompiled _ | requestCreated .. => .debug
  | asked .. => .trace

/-- The part of the program that the event comes from. -/
def part : Event → String
  | logOpened _ => "purl_core::logging"
  | configCreated _ => "purl_core::config"
  | configLoaded _ | listDone _ => "purl::cli"
  | maskCompiled _ | asked .. | requestCreated .. => "purl_core::pseudo_url::matcher"

/-- A truth value in words. -/
def yesNo : Bool → String
  | true => "true"
  | false => "false"

def message : Event → String
  | logOpened path => s!"purl logging initialized at {path}"
  | configCreated path => s!"created default config at {path}"
  | configLoaded c => s!"loaded config: {String.ofList c.shown}"
  | maskCompiled m => s!"PURL parsed: purl={String.ofList m.text} regex={String.ofList m.source}"
  | asked m u b => s!"purl={String.ofList m.text} url={String.ofList u} matched={yesNo b}"
  | requestCreated m r => s!"created request url={r.url} purl={String.ofList m.text}"
  | listDone n => s!"filter matched {String.ofList (decimalDigits n)} URLs"

/-- A character as the log holds it: those that a terminal would obey are written by their code
points. -/
def guardChar (c : Char) : List Char :=
  if c = '\x1b' ∨ c = '\x07' ∨ c = '\x08' ∨ c = '\x0c' ∨ c = '\x7f' then
    ['\\', 'x', Json.hexChar (c.toNat / 16), Json.hexChar (c.toNat % 16)]
  else if 0x80 ≤ c.toNat ∧ c.toNat ≤ 0x9F then
    ['\\', 'u', '\x7b'] ++ Nat.toDigits 16 c.toNat ++ ['\x7d']
  else [c]

/-- The line of the event, without its time. -/
def line (e : Event) : List Char :=
  e.level.name.toList ++ ' ' :: (e.part.toList ++ ':' :: ' ' ::
    (e.message.toList.flatMap guardChar ++ ['\n']))

end Event

end UrlMask
