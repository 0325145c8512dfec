import UrlMask.Toml.Value

/-!
# Building tables

A document gives the entries of its tables in pieces: under headers, in the elements of lists of
tables, and by dotted keys. A table remembers how it came about, because that decides whether
more may be added to it.

* `Node`: a value or a table under construction.
* `Node.insert`: adds an entry by a dotted key.
* `Node.place`: adds the table of a header.
-/
namespace UrlMask.Toml

/-- How a table came about. -/
inductive Origin where
  /-- By a header of its own. -/
  | header
  /-- Because a header goes through it. -/
  | passed
  /-- Because a dotted key goes through it. -/
  | dotted
  deriving DecidableEq, Repr

/-- What stands under a key while a document is read. -/
inductive Node where
  | value (v : Toml)
  | table (origin : Origin) (entries : List (String × Node))
  /-- A list of tables, one for each of its headers. -/
  | tables (items : List Node)

namespace Node

abbrev Entries := List (String × Node)

def lookup (k : String) (es : Entries) : Option Node := (es.find? (·.1 == k)).map (·.2)

/-- Sets what stands under a key; a new key comes last. -/
def update (k : String) (n : Node) : Entries → Entries
  | [] => [(k, n)]
  | e :: es => if e.1 = k then (k, n) :: es else e :: update k n es

/-- Changes the last table of a list, if all goes well. -/
def mapLast (f : Entries → Option Entries) : List Node → Option (List Node)
  | [] => none
  | [.table o es] => (f es).map fun es => [.table o es]
  | [_] => none
  | n :: ns => (mapLast f ns).map (n :: ·)

/-- Adds an entry by a dotted key to a table; `dotted` says whether the table came about by a
dotted key. Tables that have headers of their own are closed to dotted keys, and the innermost
table has to have come about by dotted keys too. -/
def insertAt (v : Toml) (dotted : Bool) (first : Bool) :
    List String → Entries → Option Entries
  | [], _ => none
  | [k], es =>
    if dotted == first then none
    else if (lookup k es).isSome then none
    else some (es ++ [(k, .value v)])
  | k :: ks, es =>
    match lookup k es with
    | none => (insertAt v true false ks []).map fun t => es ++ [(k, .table .dotted t)]
    | some (.value _) => none
    | some (.table .header _) => none
    | some (.table o t) =>
      (insertAt v (o == .dotted) false ks t).map fun t => update k (.table o t) es
    | some (.tables l) =>
      (mapLast (insertAt v false false ks) l).map fun l => update k (.tables l) es

/-- Adds an entry by a dotted key to the table of a header. -/
def insert (e : List String × Toml) (es : Entries) : Option Entries :=
  insertAt e.2 false true e.1 es

def insertAll : List (List String × Toml) → Entries → Option Entries
  | [], es => some es
  | e :: r, es => (insert e es).bind (insertAll r)

/-- Changes what stands under the last key of a path. Tables on the way are made where there are
none; in a list of tables the way goes through the last. -/
def place (put : Option Node → Option Node) : List String → Entries → Option Entries
  | [], _ => none
  | [k], es => (put (lookup k es)).map fun n => update k n es
  | k :: ks, es =>
    match lookup k es with
    | none => (place put ks []).map fun t => update k (.table .passed t) es
    | some (.value _) => none
    | some (.table o t) => (place put ks t).map fun t => update k (.table o t) es
    | some (.tables l) => (mapLast (place put ks) l).map fun l => update k (.tables l) es

/-- The table of a header: a new one, or one that only headers went through. -/
def opened (body : List (List String × Toml)) : Option Node → Option Node
  | none => (insertAll body []).map (.table .header)
  | some (.table .passed es) => (insertAll body es).map (.table .header)
  | some _ => none

/-- The list of tables with one more. -/
def extended (body : List (List String × Toml)) : Option Node → Option Node
  | none => (insertAll body []).map fun t => .tables [.table .header t]
  | some (.tables l) => (insertAll body []).map fun t => .tables (l ++ [.table .header t])
  | some _ => none

/-- The value that has been built. -/
def toToml : Node → Toml
  | value v => v
  | table _ es => .table (entries es)
  | tables l => .array (items l)
where
  entries : List (String × Node) → List (String × Toml)
    | [] => []
    | (k, n) :: es => (k, n.toToml) :: entries es
  items : List Node → List Toml
    | [] => []
    | n :: ns => n.toToml :: items ns

end Node

/-- A header. -/
inductive Header where
  /-- The table at a path. -/
  | table (path : List String)
  /-- One more table of the list at a path. -/
  | element (path : List String)
  deriving DecidableEq, Repr

/-- A header with the entries below it. -/
structure Section where
  header : Header
  body : List (List String × Toml)
  deriving Repr

def Section.add (s : Section) (es : Node.Entries) : Option Node.Entries :=
  match s.header with
  | .table path => Node.place (Node.opened s.body) path es
  | .element path => Node.place (Node.extended s.body) path es

def addSections : List Section → Node.Entries → Option Node.Entries
  | [], es => some es
  | s :: ss, es => (s.add es).bind (addSections ss)

/-- The table of a document: its entries before the first header, and its sections. -/
def assemble (body : List (List String × Toml)) (sections : List Section) : Option Toml :=
  (Node.insertAll body []).bind fun es =>
    (addSections sections es).map fun es => (Node.table .header es).toToml

end UrlMask.Toml
