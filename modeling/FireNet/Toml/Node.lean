/-
The values of a TOML document, and how tables grow while one is read.

A table remembers where it comes from, because that decides who may add to
it. A header may open any table that no header has opened before; a dotted
key adds only to tables that dotted keys made, or passes through those that
a longer header implied; an inline table is complete where it stands. A
`Descent` states these permissions for one kind of path.
-/

set_option autoImplicit false

namespace FireNet.Toml

-- ================================================================ values

/-- Where a table comes from. -/
inductive Origin where
  /-- A header of its own, or the document itself. -/
  | defined
  /-- A longer header that passes through it. -/
  | implied
  | dotted
  | inline
  /-- A dotted key inside braces. -/
  | inlineDotted
  deriving DecidableEq

/-- A value. Of floats, booleans and date-times only the kind is kept. -/
inductive Node where
  | text (s : String)
  | integer (n : Int)
  /-- A float or a boolean. -/
  | plain
  | dateTime
  | array (items : List Node)
  | table (origin : Origin) (entries : List (String × Node))
  /-- Tables that stand under one repeated header, in order. -/
  | tables (earlier : List (List (String × Node))) (last : List (String × Node))

/-- The keys of a table with their values, in order of appearance. -/
abbrev Entries := List (String × Node)

namespace Entries

/-- The entries with another value for a key that they have. -/
def replace (entries : Entries) (key : String) (value : Node) : Entries :=
  entries.map fun (k, v) => if k = key then (k, value) else (k, v)

/-- The entries with a key that is new to them. -/
def add? (entries : Entries) (key : String) (value : Node) : Option Entries :=
  match entries.lookup key with
  | none => some (entries ++ [(key, value)])
  | some _ => none

end Entries

-- ============================================================== descents

/-- A dotted key: the tables on the way, and the name at the end. -/
structure KeyPath where
  parents : List String
  last : String

/-- The permissions of one kind of path. -/
structure Descent where
  /-- The origin of the tables that it makes on its way. -/
  creates : Origin
  /-- The tables that it may pass through. -/
  enters : Origin → Bool

namespace Descent

/-- The path of a header. -/
def header : Descent := ⟨.implied, fun o => o != .inline && o != .inlineDotted⟩

/-- A dotted key of a table. -/
def keys : Descent := ⟨.dotted, fun o => o == .implied || o == .dotted⟩

/-- A dotted key inside braces. -/
def inlineKeys : Descent := ⟨.inlineDotted, (· == .inlineDotted)⟩

/-- Changes the table at the end of a path. Missing tables are made, and
of tables under one repeated header the last one is meant. -/
def edit (d : Descent) (change : Origin → Entries → Option Entries) :
    List String → Origin → Entries → Option Entries
  | [], origin, entries => change origin entries
  | key :: path, _, entries =>
    match entries.lookup key with
    | none => do
      let made ← edit d change path d.creates []
      some (entries ++ [(key, .table d.creates made)])
    | some (.table origin inner) =>
      if d.enters origin then do
        let inner ← edit d change path origin inner
        some (entries.replace key (.table origin inner))
      else none
    | some (.tables earlier last) => do
      let last ← edit d change path .defined last
      some (entries.replace key (.tables earlier last))
    | some _ => none

/-- Adds a value under a key path. A path of several names has to end in a
table that such paths make, a single name in any other. -/
def insert (d : Descent) (path : KeyPath) (value : Node) :
    Origin → Entries → Option Entries :=
  d.edit (fun origin entries =>
    if (origin == d.creates) == path.parents.isEmpty then none
    else entries.add? path.last value) path.parents

end Descent

-- ============================================================= documents

/-- A line of a document that says something. -/
inductive Line where
  /-- `[path]` -/
  | header (path : KeyPath)
  /-- `[[path]]` -/
  | rowHeader (path : KeyPath)
  /-- `path = value` -/
  | entry (path : KeyPath) (value : Node)

/-- A document that is being read: all entries so far, and the table that
the last header opened. -/
structure Draft where
  root : Entries
  current : List String

namespace Draft

def empty : Draft := ⟨[], []⟩

/-- The table that a header opens, given the value under its last name. -/
def opened (entries : Entries) (key : String) : Option Entries :=
  match entries.lookup key with
  | none => some (entries ++ [(key, .table .defined [])])
  | some (.table .implied inner) =>
    some (entries.replace key (.table .defined inner))
  | some _ => none

/-- The new row that a repeated header opens. -/
def openedRow (entries : Entries) (key : String) : Option Entries :=
  match entries.lookup key with
  | none => some (entries ++ [(key, .tables [] [])])
  | some (.tables earlier last) =>
    some (entries.replace key (.tables (earlier ++ [last]) []))
  | some _ => none

def add (d : Draft) : Line → Option Draft
  | .header path => do
    let root ←
      Descent.header.edit (fun _ es => opened es path.last) path.parents
        .defined d.root
    some ⟨root, path.parents ++ [path.last]⟩
  | .rowHeader path => do
    let root ←
      Descent.header.edit (fun _ es => openedRow es path.last) path.parents
        .defined d.root
    some ⟨root, path.parents ++ [path.last]⟩
  | .entry path value => do
    let root ← Descent.header.edit (Descent.keys.insert path value) d.current
      .defined d.root
    some { d with root := root }

end Draft

/-- The document that lines make up. -/
def ofLines? (lines : List Line) : Option Entries :=
  (lines.foldlM Draft.add Draft.empty).map (·.root)

end FireNet.Toml
