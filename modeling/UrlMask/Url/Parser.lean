import UrlMask.Url.Basic

/-!
# Reading URLs

A text is a URL if it begins with a scheme. How the rest is cut depends on the scheme: those of
the web have a host and take backslashes for slashes; files may have a host, and a drive letter
at the start of the path; all others have a host only behind `//`.

* `Url.parse`: the URL, or the first fault.
-/
namespace UrlMask.Url

/-- The kinds of schemes. -/
inductive SchemeKind where
  | web
  | file
  | other
  deriving DecidableEq, Repr

namespace SchemeKind

def ofScheme (s : List Char) : SchemeKind :=
  if s = "file".toList then .file
  else if ["http", "https", "ws", "wss", "ftp"].any (·.toList == s) then .web
  else .other

/-- Whether backslashes are slashes. -/
def isSpecial : SchemeKind → Bool
  | web | file => true
  | other => false

end SchemeKind

/-- The port that goes without saying. -/
def usualPort (scheme : List Char) : Option Nat :=
  match String.ofList scheme with
  | "http" | "ws" => some 80
  | "https" | "wss" => some 443
  | "ftp" => some 21
  | _ => none

/-! ## The text as a whole -/

def isControlOrSpace (c : Char) : Bool := c.toNat ≤ 0x20

def isTabOrNewline (c : Char) : Bool := c == '\t' || c == '\n' || c == '\r'

/-- The text without control characters and blanks at its ends, and without tabs and newlines. -/
def clean (s : List Char) : List Char :=
  let t := ((s.dropWhile isControlOrSpace).reverse.dropWhile isControlOrSpace).reverse
  t.filter fun c => !isTabOrNewline c

def isSchemeChar (c : Char) : Bool := c.isAlphanum || c == '+' || c == '-' || c == '.'

/-- The scheme in lower case, and the text behind its colon. -/
def splitScheme (s : List Char) : Option (List Char × List Char) :=
  if s.head?.any Char.isAlpha then
    match s.dropWhile isSchemeChar with
    | ':' :: r => some ((s.takeWhile isSchemeChar).map Char.toLower, r)
    | _ => none
  else none

/-- Whether the character ends what comes before the query. -/
def endsPath (c : Char) : Bool := c == '?' || c == '#'

/-- Whether the character ends the authority. -/
def endsAuthority (special : Bool) (c : Char) : Bool :=
  c == '/' || endsPath c || (special && c == '\\')

/-- The query and the fragment, from their marks on. -/
def tails (special : Bool) (s : List Char) : Option (List Char) × Option (List Char) :=
  let set := if special then Percent.EncodeSet.specialQuery else Percent.EncodeSet.query
  let fragment : List Char → Option (List Char)
    | '#' :: r => some (Percent.encode Percent.EncodeSet.fragment r)
    | _ => none
  match s with
  | '?' :: r =>
    (some (Percent.encode set (r.takeWhile (· != '#'))), fragment (r.dropWhile (· != '#')))
  | _ => (none, fragment s)

/-- The URL with these parts and the query and fragment that follow. -/
def finish (scheme : List Char) (authority : Option Authority) (path : UrlPath) (special : Bool)
    (rest : List Char) : Url :=
  let (query, fragment) := tails special rest
  let guarded := match authority, path with
    | none, .segments ([] :: _ :: _) => true
    | _, _ => false
  ⟨scheme, authority, guarded, path, query, fragment⟩

/-- The text without one slash at its start. -/
def dropSlash (special : Bool) : List Char → List Char
  | '/' :: r => r
  | '\\' :: r => if special then r else '\\' :: r
  | s => s

/-! ## Authorities -/

/-- The text before the last `@`, if there is one, and the text after it. -/
def splitLogin (s : List Char) : Option (List Char) × List Char :=
  if s.contains '@' then
    let host := (s.reverse.takeWhile (· != '@')).reverse
    (some (s.take (s.length - host.length - 1)), host)
  else (none, s)

/-- The user name and the password; one that is empty is none. -/
def loginOf (s : List Char) : List Char × Option (List Char) :=
  let (user, password) := Form.cut ':' s
  let enc := Percent.encode Percent.EncodeSet.userinfo
  (enc user, if password.isEmpty then none else some (enc password))

/-- The host of an authority, up to the colon of the port. Colons in square brackets belong to
the host. -/
def takeHost (special bracketed : Bool) : List Char → List Char × List Char
  | [] => ([], [])
  | c :: r =>
    if (c = ':' ∧ !bracketed) ∨ endsAuthority special c then ([], c :: r)
    else
      let inside := if c = '[' then true else if c = ']' then false else bracketed
      ((takeHost special inside r).map (c :: ·) id)

/-- Reads the digits of a port. -/
def portDigits (n : Nat) (any : Bool) : List Char → Except Fault (Option Nat × List Char)
  | [] => .ok (if any then some n else none, [])
  | c :: r =>
    if c.isDigit then
      let m := n * 10 + (c.toNat - 48)
      if 65535 < m then .error .port else portDigits m true r
    else if c = '/' ∨ c = '\\' ∨ endsPath c then .ok (if any then some n else none, c :: r)
    else .error .port

/-- Reads the port, if there is one, and leaves out the usual one. -/
def readPort (scheme : List Char) : List Char → Except Fault (Option Nat × List Char)
  | ':' :: r => do
    let (port, rest) ← portDigits 0 false r
    .ok (if port = usualPort scheme then none else port, rest)
  | s => .ok (none, s)

/-- Reads the host and the port of a scheme that is not of files. -/
def readHost (kind : SchemeKind) (scheme : List Char) (user : List Char)
    (password : Option (List Char)) (s : List Char) : Except Fault (Authority × List Char) := do
  let special := kind.isSpecial
  let (hostText, rest) := takeHost special false s
  if special && hostText.isEmpty then .error .emptyHost
  let host ← if special then Host.ofWeb hostText else Host.ofOther hostText
  if host = Host.none && rest.head? == some ':' then .error .emptyHost
  let (port, rest) ← readPort scheme rest
  if host = Host.none && (!user.isEmpty || password.isSome) then .error .emptyHost
  .ok (⟨user, password, host, port⟩, rest)

/-- Reads an authority; the slashes before it have been read. -/
def readAuthority (kind : SchemeKind) (scheme s : List Char) :
    Except Fault (Authority × List Char) :=
  let special := kind.isSpecial
  let front := s.takeWhile fun c => !endsAuthority special c
  let rest := s.dropWhile fun c => !endsAuthority special c
  match splitLogin front with
  | (none, _) => readHost kind scheme [] none s
  | (some [], host) =>
    if host.isEmpty && !rest.isEmpty then .error .emptyHost
    else readHost kind scheme [] none (host ++ rest)
  | (some login, host) =>
    let (user, password) := loginOf login
    readHost kind scheme user password (host ++ rest)

/-! ## The three kinds of URLs -/

/-- A URL with an authority and a path. -/
def afterSlashes (kind : SchemeKind) (scheme s : List Char) : Except Fault Url := do
  let (authority, rest) ← readAuthority kind scheme s
  let special := kind.isSpecial
  let pathText := rest.takeWhile fun c => !endsPath c
  let segs :=
    if !special && pathText.isEmpty then []
    else Path.segments false (Path.pieces special (dropSlash special pathText))
  .ok (finish scheme (some authority) (.segments segs) special
    (rest.dropWhile fun c => !endsPath c))

/-- A URL whose scheme is neither of the web nor of files. -/
def ofOther (scheme s : List Char) : Except Fault Url :=
  match s with
  | '/' :: '/' :: r => afterSlashes .other scheme r
  | '/' :: r =>
    .ok (finish scheme none
      (.segments (Path.segments false (Path.pieces false (r.takeWhile fun c => !endsPath c))))
      false (r.dropWhile fun c => !endsPath c))
  | _ =>
    .ok (finish scheme none
      (.plain (Percent.encode Percent.EncodeSet.control (s.takeWhile fun c => !endsPath c)))
      false (s.dropWhile fun c => !endsPath c))

/-- The URL of a file on a host. A path that begins with a drive letter has no host. -/
def fileOn (scheme : List Char) (host : Host) (s : List Char) : Url :=
  let ps := Path.pieces true (s.takeWhile fun c => !endsPath c)
  let host := if Path.startsWithDrive ps then Host.none else host
  finish scheme (some ⟨[], none, host, none⟩) (.segments (Path.segments true ps)) true
    (s.dropWhile fun c => !endsPath c)

/-- The host of a file; the local one goes without saying. -/
def fileHost (s : List Char) : Except Fault Host :=
  if s.isEmpty then .ok Host.none
  else
    match Host.ofWeb s with
    | .ok h => .ok (if h = .name "localhost".toList then Host.none else h)
    | .error e => .error e

/-- A URL of a file. Where a host is left out behind two slashes, the path keeps its own slash, and
what follows that is no drive letter. -/
def ofFile (scheme s : List Char) : Except Fault Url :=
  let isSlash : Char → Bool := fun c => c == '/' || c == '\\'
  match s with
  | a :: b :: r =>
    if isSlash a && isSlash b then
      let hostText := r.takeWhile fun c => !endsAuthority true c
      if Path.isDrive hostText then .ok (fileOn scheme Host.none r)
      else do
        let rest := r.dropWhile fun c => !endsAuthority true c
        let host ← fileHost hostText
        if host = Host.none then .ok (fileOn scheme host rest)
        else .ok (fileOn scheme host (dropSlash true rest))
    else .ok (fileOn scheme Host.none (dropSlash true s))
  | _ => .ok (fileOn scheme Host.none (dropSlash true s))

/-- Reads a URL. -/
def parse (s : List Char) : Except Fault Url :=
  match splitScheme (clean s) with
  | none => .error .noScheme
  | some (scheme, rest) =>
    match SchemeKind.ofScheme scheme with
    | .web => afterSlashes .web scheme (rest.dropWhile fun c => c == '/' || c == '\\')
    | .file => ofFile scheme rest
    | .other => ofOther scheme rest

end UrlMask.Url
