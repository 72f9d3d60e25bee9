/-
A file system as a value: numbered directories, in which names stand for
files and for other directories, with the path rules and the errors of a
system that keeps real ones. Relative paths start at the working
directory, which has parents like any other.

One name on the way of a path costs one look-up, however deep the way is.
-/
import FireNet.Files.Disk
import Std.Data.HashMap

set_option autoImplicit false

namespace FireNet

inductive Entry where
  | file (bytes : Array UInt8)
  | directory (number : Nat)
  deriving DecidableEq

/-- The directories below the root on the way to one of them, by number,
innermost first. -/
abbrev Trail := List Nat

namespace Trail

/-- The directory that a trail leads to. The root has the number 0. -/
def current (trail : Trail) : Nat := trail.headD 0

/-- The trail to the directory above. The root is above itself. -/
def up (trail : Trail) : Trail := trail.tail

end Trail

/-- Files and directories. -/
structure FileTree where
  /-- What a name stands for in a directory. -/
  entries : Std.HashMap (Nat × String) Entry
  fresh : Nat

namespace FileTree

/-- The trail to the working directory. -/
def home : Trail := [2, 1]

/-- Nothing but an empty working directory. -/
def empty : FileTree :=
  ⟨.ofList [((0, "tmp"), .directory 1), ((1, "work"), .directory 2)], 3⟩

def find? (t : FileTree) (directory : Nat) (name : String) : Option Entry :=
  t.entries[(directory, name)]?

/-- The tree with a file added or replaced. -/
def putFile (t : FileTree) (directory : Nat) (name : String)
    (bytes : Array UInt8) : FileTree :=
  { t with entries := t.entries.insert (directory, name) (.file bytes) }

/-- The tree with an empty directory added. -/
def putDir (t : FileTree) (directory : Nat) (name : String) : FileTree :=
  ⟨t.entries.insert (directory, name) (.directory t.fresh), t.fresh + 1⟩

def drop (t : FileTree) (directory : Nat) (name : String) : FileTree :=
  { t with entries := t.entries.erase (directory, name) }

/-- The names in a directory, with their entries. -/
def below (t : FileTree) (directory : Nat) : List (String × Entry) :=
  t.entries.toList.filterMap fun ((d, name), entry) =>
    if d = directory then some (name, entry) else none

-- ================================================================ paths

structure Route where
  start : Trail
  /-- The directories on the way, dots included. -/
  way : List String
  /-- The last name; `none` for the root alone. -/
  last : Option String
  /-- Whether a slash follows the last name. -/
  slash : Bool

def route (path : String) : Except FileError Route :=
  if path.toList.contains '\x00' then .error .nulInPath
  else if path.isEmpty then .error .notFound
  else if 4095 < path.utf8ByteSize then .error .nameTooLong
  else
    let names := pathNames path
    .ok ⟨if path.startsWith "/" then [] else home, names.dropLast,
      names.getLast?, path.endsWith "/"⟩

/-- What a directory has under a name. -/
def look (t : FileTree) (directory : Nat) (name : String) :
    Except FileError (Option Entry) :=
  if 255 < name.utf8ByteSize then .error .nameTooLong
    else .ok (t.find? directory name)

/-- One name further from a directory. -/
def enter (t : FileTree) (trail : Trail) (name : String) :
    Except FileError Trail := do
  if name = "." then pure trail
  else if name = ".." then pure trail.up
  else
    match ← t.look trail.current name with
    | some (.directory number) => pure (number :: trail)
    | some (.file _) => throw .notDirectory
    | none => throw .notFound

/-- The directory where the last name of a path is looked up, and that
name; `none` when the path ends in a directory by its form. -/
def locate (t : FileTree) (r : Route) :
    Except FileError (Option (Nat × String)) := do
  let parent ← r.way.foldlM t.enter r.start
  match r.last with
  | none | some "." | some ".." => pure none
  | some name => pure (some (parent.current, name))

-- =========================================================== operations

def read (t : FileTree) (path : String) : Except FileError (Array UInt8) := do
  let r ← route path
  match ← t.locate r with
  | none => throw .isDirectory
  | some (parent, name) =>
    match ← t.look parent name with
    | none => throw .notFound
    | some (.directory _) => throw .isDirectory
    | some (.file bytes) => if r.slash then throw .notDirectory else pure bytes

/-- Where a file may be created or replaced. A slash at the end asks for a
directory, whatever the name. -/
def writable (t : FileTree) (path : String) :
    Except FileError (Nat × String) := do
  let r ← route path
  match ← t.locate r with
  | none => throw .isDirectory
  | some (parent, name) =>
    if r.slash then throw .isDirectory
    match ← t.look parent name with
    | some (.directory _) => throw .isDirectory
    | _ => pure (parent, name)

def write (t : FileTree) (path : String) (bytes : Array UInt8) :
    Except FileError FileTree := do
  let (parent, name) ← t.writable path
  pure (t.putFile parent name bytes)

/-- Where a directory may be created. -/
def vacant (t : FileTree) (path : String) :
    Except FileError (Nat × String) := do
  match ← t.locate (← route path) with
  | none => throw .alreadyExists
  | some (parent, name) =>
    match ← t.look parent name with
    | some _ => throw .alreadyExists
    | none => pure (parent, name)

def createDir (t : FileTree) (path : String) : Except FileError FileTree := do
  let (parent, name) ← t.vacant path
  pure (t.putDir parent name)

def remove (t : FileTree) (path : String) : Except FileError FileTree := do
  let _ ← t.read path
  match ← t.locate (← route path) with
  | some (parent, name) => pure (t.drop parent name)
  | none => throw .isDirectory

/-- Cuts a file, or extends it with zeros. -/
def truncate (t : FileTree) (path : String) (length : Nat) :
    Except FileError FileTree := do
  let bytes ← t.read path
  t.write path (bytes.extract 0 length
    ++ Array.replicate (length - bytes.size) 0)

/-- The names in a directory, in increasing order. -/
def list (t : FileTree) (path : String) :
    Except FileError (List (String × Entry)) := do
  let r ← route path
  let trail ← (r.way ++ r.last.toList).foldlM t.enter r.start
  pure ((t.below trail.current).mergeSort fun a b => decide (a.1 ≤ b.1))

end FileTree

/-- Files of a tree that a state carries. The place is found first, so that
the tree is changed in place. -/
instance : Disk (StateM FileTree) where
  read path := do pure ((← get).read path)
  write path bytes := do
    match (← get).writable path with
    | .ok (parent, name) => do
      modify fun t => t.putFile parent name bytes
      pure (.ok ())
    | .error e => pure (.error e)
  createDir path := do
    match (← get).vacant path with
    | .ok (parent, name) => do
      modify fun t => t.putDir parent name
      pure (.ok ())
    | .error e => pure (.error e)

end FireNet
