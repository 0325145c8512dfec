import UrlMask.Request.Method
import UrlMask.Url.Fault

/-!
# Why there is no request
-/
namespace UrlMask

namespace Request

/-- The fields of a request, by the names under which they are given and written. -/
inductive Field where
  | url
  | uniqueKey
  | method
  | payload
  | headers
  | userData
  | keepUrlFragment
  | retryCount
  | noRetry
  | errorMessages
  deriving DecidableEq, Repr

namespace Field

def all : List Field :=
  [url, uniqueKey, method, payload, headers, userData, keepUrlFragment, retryCount, noRetry,
   errorMessages]

def name : Field → String
  | url => "url"
  | uniqueKey => "uniqueKey"
  | method => "method"
  | payload => "payload"
  | headers => "headers"
  | userData => "userData"
  | keepUrlFragment => "keepUrlFragment"
  | retryCount => "retryCount"
  | noRetry => "noRetry"
  | errorMessages => "errorMessages"

def ofName? (s : String) : Option Field := all.find? fun f => f.name == s

theorem ofName?_name (f : Field) : ofName? f.name = some f := by
  cases f <;> decide

/-- What can be wrong with the fields of a request. -/
inductive Fault where
  /-- The value is not what the field wants. -/
  | mismatch (m : Mismatch)
  /-- The value of the method stands for none. -/
  | method (f : Method.Fault)
  /-- No field has this name. -/
  | unknown (name : String)
  /-- There is no URL. -/
  | missingUrl

def Fault.message : Fault → String
  | mismatch m => m.message
  | method f => f.message
  | unknown s => s!"unknown field `{s}`, expected one of {Method.listed (all.map name)}"
  | missingUrl => s!"missing field `{url.name}`"

end Field

/-- Why there is no request. -/
inductive Fault where
  | invalidFields (cause : Field.Fault)
  /-- The text that was given as URL is none. -/
  | invalidUrl (url : String) (cause : Url.Fault)
  /-- There is a payload, but the method does not allow one. -/
  | payloadNotAllowed (method : Method)

def Fault.message : Fault → String
  | invalidFields f => s!"invalid request fields: {f.message}"
  | invalidUrl u f => s!"invalid request url '{u}': {f.message}"
  | payloadNotAllowed m => s!"{m.name} requests cannot carry a payload"

end Request

end UrlMask
