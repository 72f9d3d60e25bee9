/-
Where blobs are kept: in memory, or in a directory with one file for each
blob, named after it. A stored blob is the bare run of its values, four
bytes each, least significant first; there is no header, so the length of
a file must be exactly that of its layer.

Both stores refuse alike, and neither touches the buffer when it does.
-/
import FireNet.Files.Disk
import FireNet.Weights.Source
import Std.Data.HashMap

set_option autoImplicit false

namespace FireNet

-- ================================================================ bytes

namespace Blob

/-- The bytes of stored values. -/
def encode (values : Array Single) : Array UInt8 :=
  values.flatMap fun v => v.toBytes.toArray

/-- The value at index `i` of stored bytes. -/
def valueAt (bytes : Array UInt8) (i : Nat) : Single :=
  let byte (k : Nat) : UInt8 := bytes.getD (4 * i + k) 0
  Single.ofBytes (byte 0) (byte 1) (byte 2) (byte 3)

/-- `n` stored values, from `4 * n` bytes. -/
def decode (n : Nat) (bytes : Array UInt8) : Vector Single n :=
  Vector.ofFn fun i => valueAt bytes i

end Blob

-- =============================================================== memory

/-- Named blobs in memory. -/
structure MemoryStore where
  blobs : Std.HashMap String (Array Single)

namespace MemoryStore

def empty : MemoryStore := ⟨∅⟩

def get? (s : MemoryStore) (name : String) : Option (Array Single) :=
  s.blobs[name]?

def erase (s : MemoryStore) (name : String) : MemoryStore :=
  ⟨s.blobs.erase name⟩

/-- The store with a blob added or replaced. -/
def insert (s : MemoryStore) (name : String) (values : Array Single) :
    MemoryStore :=
  ⟨s.blobs.insert name values⟩

/-- The store of all blobs of some parameters. -/
def ofParameters (p : Parameters) : MemoryStore :=
  ⟨.ofList (p.allBlobs.map fun (key, values) => (key.name, values))⟩

def size (s : MemoryStore) : Nat := s.blobs.size

/-- The blob of a name, if it has the length of a buffer. -/
def fetch (s : MemoryStore) (name : String) (n : Nat) :
    Outcome (Vector Single n) :=
  match s.get? name with
  | none => refuse (Error.load name .noSuchBlob)
  | some values =>
    if h : values.size = n then .ok ⟨values, h⟩
    else refuse (Error.blobSize name (n * Element.bytes Single)
      (values.size * Element.bytes Single))

def source {m : Type → Type} [Monad m] (s : MemoryStore) : BlobSource m where
  fill name n buffer :=
    match s.fetch name n with
    | .ok values => pure (.ok (), values)
    | .error e => pure (.error e, buffer)

end MemoryStore

-- ============================================================ directory

/-- Blobs as files of a directory. -/
structure DirectoryStore where
  root : String

namespace DirectoryStore

def path (s : DirectoryStore) (name : String) : String := joinPath s.root name

/-- The content of a file as a blob, if it has the length of a buffer. -/
def accept (name : String) (n : Nat) (bytes : Array UInt8) :
    Outcome (Vector Single n) :=
  if bytes.size = n * Element.bytes Single then .ok (Blob.decode n bytes)
  else refuse (Error.blobSize name (n * Element.bytes Single) bytes.size)

variable {m : Type → Type} [Monad m] [Disk m]

def source (s : DirectoryStore) : BlobSource m where
  fill name n buffer := do
    match ← (Disk.read (s.path name) : m _) with
    | .error e =>
      pure (.error (.error (.load name (.unreadable (s.path name) e.message))),
        buffer)
    | .ok bytes =>
      match accept name n bytes with
      | .error e => pure (.error e, buffer)
      | .ok values =>
        report .debug s!"read {s.path name} ({bytes.size} bytes)"
        pure (.ok (), values)

/-- Writes a blob, creating the directory if it is missing. -/
def write (s : DirectoryStore) (name : String) (values : Array Single) :
    m (Except FileError Unit) := do
  match ← Disk.createDirAll s.root with
  | .error e => pure (.error e)
  | .ok () => Disk.write (s.path name) (Blob.encode values)

end DirectoryStore

-- =========================================================== parameters

section

variable {m : Type → Type} [Monad m] [Disk m]

/-- The parameters with every blob read from a directory. -/
def Parameters.loadFrom (dir : String) (p : Parameters) :
    Reported m Parameters :=
  p.load (DirectoryStore.mk dir).source

/-- Writes blobs in order; the first failure ends it. -/
def Parameters.saveBlobs (store : DirectoryStore) :
    List (BlobKey × Array Single) → Reported m Unit
  | [] => pure ()
  | (key, values) :: rest => do
    match ← (store.write key.name values : m _) with
    | .error e => refuse (Error.file e.message)
    | .ok () => saveBlobs store rest

/-- Writes every blob into a directory. -/
def Parameters.saveTo (dir : String) (p : Parameters) : Reported m Unit := do
  Parameters.saveBlobs ⟨dir⟩ p.allBlobs
  report .info s!"saved {p.manifest.length} parameter blobs to {dir}"

end

end FireNet
