import UrlMask.Url.Parser

/-!
# Keys for telling URLs apart

Two URLs that name one resource get one key: the query pairs are put in order, slashes at the end
of the path go, and the fragment goes too unless it is to be kept.

* `Url.uniqueKey`: the key of a URL.
-/
namespace UrlMask.Url

/-- A plain path at the end of a URL has no blanks at its end. -/
def settled (u : Url) : Url :=
  match u.path, u.query, u.fragment with
  | .plain s, none, none =>
    { u with path := .plain (s.reverse.dropWhile (· == ' ')).reverse }
  | _, _, _ => u

def withoutFragment (u : Url) : Url := settled { u with fragment := none }

/-- The URL with its query pairs in order. A query without pairs goes. -/
def withSortedQuery (u : Url) : Url :=
  match Form.pairs (u.query.getD []) with
  | [] => settled { u with query := none }
  | ps => { u with query := some (Form.write (ps.mergeSort Form.ordered)) }

/-- The URL without slashes at the end of its path; a path that is one slash stays. -/
def withTrimmedPath (u : Url) : Url :=
  match u.path with
  | .plain s =>
    if s.getLast? = some '/' ∧ 1 < s.length then
      { u with path := .plain (s.reverse.dropWhile (· == '/')).reverse }
    else u
  | .segments segs =>
    if segs.getLast? = some [] ∧ 1 < segs.length then
      let isFile := SchemeKind.ofScheme u.scheme == .file
      { u with path := .segments (Path.segments isFile (Path.trimmed segs)) }
    else u

/-- The URL whose text is the key. -/
def normal (keepFragment : Bool) (u : Url) : Url :=
  let u := if keepFragment then u else withoutFragment u
  withTrimmedPath (withSortedQuery u)

/-- The key of a URL. -/
def uniqueKey (keepFragment : Bool) (u : Url) : List Char := (normal keepFragment u).text

end UrlMask.Url
