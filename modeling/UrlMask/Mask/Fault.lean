import UrlMask.Json.Value
import UrlMask.Regex.Fault

/-!
# Why a mask is refused
-/
namespace UrlMask

namespace Mask

/-- Why the text of a mask is refused. -/
inductive Reason where
  /-- There is nothing but blanks. -/
  | blank
  /-- The source is no regex. -/
  | regex (fault : Regex.Fault) (source : List Char)
  /-- The compiled regex would take more than this many bytes. -/
  | tooLarge (limit : Nat)

def Reason.message : Reason → String
  | blank => "it must be a non-empty string"
  | regex f source => f.display source
  | tooLarge limit => s!"Compiled regex exceeds size limit of {limit} bytes."

/-- Why a mask cannot be built. -/
inductive Fault where
  /-- An argument is of the wrong kind. -/
  | invalidArgument (name expected : String)
  /-- The template is of this kind and no object. -/
  | invalidTemplate (found : String)
  /-- The text of the mask, blanks included, is refused. -/
  | malformed (text : List Char) (reason : Reason)

def Fault.message : Fault → String
  | invalidArgument name expected => s!"invalid argument `{name}`: expected {expected}"
  | invalidTemplate found => s!"invalid request template: expected an object, found {found}"
  | malformed text reason => s!"cannot parse PURL '{String.ofList text}': {reason.message}"

end Mask

end UrlMask
