/-
The command line: the first argument names a program, the others are its
own. Files are those of the system.
-/
import FireNet.Program.Basic

set_option autoImplicit false

namespace FireNet.Command

/-- The number that the system gives an error, where it is one of files. -/
def systemCode? : IO.Error → Option UInt32
  | .alreadyExists _ code _ => some code
  | .noFileOrDirectory _ code _ => some code
  | .invalidArgument _ code _ => some code
  | .permissionDenied _ code _ => some code
  | .inappropriateType _ code _ => some code
  | .resourceExhausted _ code _ => some code
  | .otherError code _ => some code
  | _ => none

/-- The cause of a failed file operation. -/
def fileError (e : IO.Error) : FileError :=
  match systemCode? e with
  | some 2 => .notFound
  | some 17 => .alreadyExists
  | some 20 => .notDirectory
  | some 21 => .isDirectory
  | some 36 => .nameTooLong
  | _ => .other (toString e)

/-- A file operation with its outcome as a value. -/
def attempt {α : Type} (work : IO α) : IO (Except FileError α) := do
  try
    pure (.ok (← work))
  catch e => pure (.error (fileError e))

instance : Disk IO where
  read path := attempt do pure (← IO.FS.readBinFile path).data
  write path bytes := attempt (IO.FS.writeBinFile path ⟨bytes⟩)
  createDir path := attempt (IO.FS.createDir path)

def environment : IO Environment := do
  let backend ← IO.getEnv Preference.variableName
  let modelPath ← IO.getEnv Settings.variableName
  pure ⟨backend.map fun text => text.toUTF8.data.toList, modelPath⟩

/-- Runs a program and shows what it leaves. -/
def execute (program : Program) (args : List String) : IO UInt32 := do
  let (finished, journal) ← (program.run (← environment) args).run #[]
  (← IO.getStdout).putStr finished.output
  let errors ← IO.getStderr
  for record in journal do
    if record.level ≠ .debug then errors.putStrLn record.line
  errors.putStr finished.errors
  pure finished.exit.toUInt32

end FireNet.Command

def main (args : List String) : IO UInt32 := do
  match args with
  | [] => do
    IO.eprintln "a program is missing: gen_weights, classify or siren"
    pure 2
  | name :: rest =>
    match FireNet.Program.ofName? name with
    | some program => FireNet.Command.execute program rest
    | none => do
      IO.eprintln s!"unknown program {name}"
      pure 2
