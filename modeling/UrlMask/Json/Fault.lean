import UrlMask.Json.Cursor

/-!
# What can be wrong with a JSON text
-/
namespace UrlMask.Json

/-- The causes for which a text is no JSON value. -/
inductive Cause where
  | endInList
  | endInObject
  | endInString
  | endInValue
  | missingColon
  | missingListComma
  | missingObjectComma
  | unknownWord
  | missingValue
  | invalidEscape
  | invalidNumber
  | numberTooLarge
  | controlCharacter
  | keyNotString
  | loneSurrogate
  | trailingComma
  | trailingText
  | brokenSurrogate
  | tooDeep
  deriving DecidableEq, Repr

def Cause.message : Cause → String
  | endInList => "EOF while parsing a list"
  | endInObject => "EOF while parsing an object"
  | endInString => "EOF while parsing a string"
  | endInValue => "EOF while parsing a value"
  | missingColon => "expected `:`"
  | missingListComma => "expected `,` or `]`"
  | missingObjectComma => "expected `,` or `\x7d`"
  | unknownWord => "expected ident"
  | missingValue => "expected value"
  | invalidEscape => "invalid escape"
  | invalidNumber => "invalid number"
  | numberTooLarge => "number out of range"
  | controlCharacter => "control character (\\u0000-\\u001F) found while parsing a string"
  | keyNotString => "key must be a string"
  | loneSurrogate => "lone leading surrogate in hex escape"
  | trailingComma => "trailing comma"
  | trailingText => "trailing characters"
  | brokenSurrogate => "unexpected end of hex escape"
  | tooDeep => "recursion limit exceeded"

/-- A cause and its place. -/
structure Fault where
  cause : Cause
  place : Place
  deriving DecidableEq, Repr

def Fault.message (f : Fault) : String :=
  f.cause.message ++ " at line " ++ toString f.place.line ++ " column " ++ toString f.place.column

end UrlMask.Json
