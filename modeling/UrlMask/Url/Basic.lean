import UrlMask.Url.Host
import UrlMask.Url.Path

/-!
# URLs

A URL in its parts. All texts are as they are written: what has to be percent-encoded is.

* `Url.text`: how the URL is written.
-/
namespace UrlMask

namespace Url

/-- What stands between `//` and the path. -/
structure Authority where
  user : List Char
  /-- The password, if there is a colon before it. -/
  password : Option (List Char)
  host : Host
  /-- The port, unless it is the usual one of the scheme. -/
  port : Option Nat
  deriving DecidableEq, Repr

/-- The path of a URL. -/
inductive UrlPath where
  /-- A text without structure, in a URL whose scheme is not followed by a slash. -/
  | plain (text : List Char)
  | segments (segs : List (List Char))
  deriving DecidableEq, Repr

def UrlPath.text : UrlPath → List Char
  | plain s => s
  | segments segs => Path.text segs

end Url

/-- A URL. -/
structure Url where
  scheme : List Char
  authority : Option Url.Authority
  /-- Whether the path stands behind `/.`, so that two slashes at its start are not taken for
  those before an authority. -/
  guarded : Bool
  path : Url.UrlPath
  query : Option (List Char)
  fragment : Option (List Char)
  deriving DecidableEq, Repr

namespace Url

def Authority.text (a : Authority) : List Char :=
  let login := a.user ++ (match a.password with
    | some p => ':' :: p
    | none => [])
  let login := if login.isEmpty then [] else login ++ ['@']
  let port := match a.port with
    | some n => ':' :: Nat.toDigits 10 n
    | none => []
  '/' :: '/' :: (login ++ a.host.text ++ port)

/-- A part behind its mark, if it is there. -/
def marked (mark : Char) : Option (List Char) → List Char
  | some s => mark :: s
  | none => []

/-- How the URL is written. -/
def text (u : Url) : List Char :=
  u.scheme ++ ':' :: ((match u.authority with
    | some a => a.text
    | none => []) ++ (if u.guarded then ['/', '.'] else []) ++ u.path.text ++
    marked '?' u.query ++ marked '#' u.fragment)

end Url

end UrlMask
