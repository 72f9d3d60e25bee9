/-
Settings as a TOML document. Every record of settings may be given as a
table, whose unknown keys do not matter, or as an array of its fields in
their order. What is left out takes its default; what is there has to be of
the right kind.
-/
import FireNet.Files.Disk
import FireNet.Settings.Basic
import FireNet.Text.Utf8
import FireNet.Toml.Document

set_option autoImplicit false

namespace FireNet

namespace Toml.Node

/-- How the fields of a record are found: by name and by position. -/
abbrev Fields := (name : String) → (position : Nat) → Option Node

/-- The fields of a value that stands for a record. A date-time stands for
one that states nothing. -/
def fields? : Node → Option Fields
  | .table _ entries => some fun name _ => entries.lookup name
  | .array items => some fun _ position => items[position]?
  | .tables earlier last =>
    some fun _ position => (earlier ++ [last])[position]?.map (.table .defined)
  | .dateTime => some fun _ _ => none
  | _ => none

def text? : Node → Option String
  | .text s => some s
  | _ => none

/-- An integer that is not negative. -/
def size? : Node → Option Nat
  | .integer n => if n < 0 then none else some n.toNat
  | _ => none

/-- A list of sizes. -/
def sizes? : Node → Option (List Nat)
  | .array items => items.mapM size?
  | _ => none

/-- Whether a value has nothing in it. -/
def isVoid : Node → Bool
  | .table _ entries => entries.isEmpty
  | .array items => items.isEmpty
  | _ => false

/-- A backend: its name, or a table with the name as its only key and
nothing under it. -/
def preference? : Node → Option Preference
  | .text s => named s
  | .table _ [(name, value)] => if value.isVoid then named name else none
  | _ => none
where
  /-- The backend of an exact name. -/
  named (s : String) : Option Preference :=
    if s = Preference.auto.name then some .auto
    else if s = Preference.scalar.name then some .scalar
    else none

end Toml.Node

namespace Settings

open Toml

/-- The value of a field, or its default when it is left out. -/
def field {α : Type} (read : Node → Option α) (given : Option Node)
    (standard : α) : Option α :=
  match given with
  | none => some standard
  | some node => read node

/-- The fields of a record inside another; none when it is left out. -/
def inner (given : Option Node) : Option Node.Fields :=
  field Node.fields? given fun _ _ => none

/-- The settings that a document states. -/
def decode? (document : Entries) : Option Settings := do
  let d := standard
  let weightsDir ← field Node.text? (document.lookup "weights_dir") d.weightsDir
  let architecture ← inner (document.lookup "architecture")
  let repeats ←
    field Node.sizes? (architecture "stage_repeats" 0) d.architecture.repeats
  let widths ←
    field Node.sizes? (architecture "stage_widths" 1) d.architecture.widths
  let input ← inner (document.lookup "input")
  let height ← field Node.size? (input "height" 0) d.height
  let width ← field Node.size? (input "width" 1) d.width
  let engine ← inner (document.lookup "engine")
  let backend ← field Node.preference? (engine "backend" 0) d.backend
  some ⟨weightsDir, ⟨repeats, widths⟩, height, width, backend⟩

/-- The valid settings that a text states. -/
def parse (text : String) : Outcome Settings :=
  match Toml.parse? text >>= decode? with
  | none => refuse Error.malformed
  | some s => do
    s.validate
    pure s

/-- The valid settings that a file states. -/
def read {m : Type → Type} [Monad m] [Disk m] (path : String) :
    Reported m Settings := do
  match ← (Disk.read path : m _) with
  | .error e => refuse (Error.file e.message)
  | .ok bytes =>
    match Text.decodeUtf8? bytes.toList with
    | none => refuse (Error.file "stream did not contain valid UTF-8")
    | some text => ExceptT.mk (pure (parse (String.ofList text)))

end Settings

end FireNet
