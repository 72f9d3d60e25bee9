/-
What the library needs of a file system, and how paths are joined. Files
are byte strings under slash-separated paths; a relative path starts at
the working directory.
-/

set_option autoImplicit false

namespace FireNet

inductive FileError where
  | notFound
  | isDirectory
  | notDirectory
  | alreadyExists
  | nameTooLong
  | nulInPath
  /-- Any other cause, worded by the system. -/
  | other (text : String)
  deriving DecidableEq

/-- The text of a cause, with the number that the system gives it. -/
def FileError.message : FileError → String
  | .notFound => "No such file or directory (os error 2)"
  | .isDirectory => "Is a directory (os error 21)"
  | .notDirectory => "Not a directory (os error 20)"
  | .alreadyExists => "File exists (os error 17)"
  | .nameTooLong => "File name too long (os error 36)"
  | .nulInPath => "file name contained an unexpected NUL byte"
  | .other text => text

/-- A name below a root. An absolute name takes the place of the root. -/
def joinPath (root name : String) : String :=
  if name.startsWith "/" then name
  else if root.isEmpty || root.endsWith "/" then root ++ name
  else root ++ "/" ++ name

/-- The names in a path, between its slashes. -/
def pathNames (path : String) : List String :=
  ((path.toList.splitOn '/').map String.ofList).filter (!·.isEmpty)

class Disk (m : Type → Type) where
  read (path : String) : m (Except FileError (Array UInt8))
  /-- Creates a file, or replaces its content. -/
  write (path : String) (bytes : Array UInt8) : m (Except FileError Unit)
  /-- Creates one directory; what has its name already is in the way. -/
  createDir (path : String) : m (Except FileError Unit)

-- ========================================================== directories

/-- The directories that a path passes, innermost first. Dots at its end
belong to the last name, so `a/b/.` passes `a` alone. -/
def parentPaths (path : String) : List String :=
  let start := if path.startsWith "/" then "/" else ""
  let passed := ((pathNames path).reverse.dropWhile (· = ".")).tail
  let ways := (List.range passed.length).map passed.drop
  (ways.filter fun way => way.head? ≠ some ".").map fun way =>
    start ++ "/".intercalate way.reverse

namespace Disk

variable {m : Type → Type} [Monad m] [Disk m]

/-- Creates one directory unless it is there, which shows in that reading
it is refused for what it is. -/
def ensureDir (path : String) : m (Except FileError Unit) := do
  match ← createDir path with
  | .ok () => pure (.ok ())
  | .error e => do
    match ← read path with
    | .error .isDirectory => pure (.ok ())
    | _ => pure (.error e)

/-- Creates the first of some nested directories, innermost first, and as
many of the others as it takes. -/
def ensureDirs : List String → m (Except FileError Unit)
  | [] => pure (.ok ())
  | path :: parents => do
    match ← ensureDir path with
    | .error .notFound => do
      match ← ensureDirs parents with
      | .ok () => ensureDir path
      | .error e => pure (.error e)
    | outcome => pure outcome

/-- Creates a directory with all its parents, unless it is there. What was
created before an error stays. -/
def createDirAll (path : String) : m (Except FileError Unit) :=
  if path.isEmpty then pure (.ok ()) else ensureDirs (path :: parentPaths path)

end Disk

end FireNet
