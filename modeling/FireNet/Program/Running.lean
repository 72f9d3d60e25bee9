/-
How a program runs and ends. A program prints lines, works on a host, and
ends in one of four ways, each with an exit status of its own: well, with
an error that it explains, by a misuse of its command line, or by a fault.
-/
import FireNet.Host
import FireNet.Program.Options

set_option autoImplicit false

namespace FireNet

structure Finished where
  exit : Nat
  output : String
  errors : String
  deriving DecidableEq

/-- Why a program ends early. -/
inductive Abort where
  /-- The command line is answered at once. -/
  | stopped (stop : EarlyStop)
  /-- An error: what went wrong, and what caused it. -/
  | failed (message : String) (cause : Option String)
  | fault

/-- A running program: its output so far, on a host. -/
abbrev Running (m : Type → Type) (α : Type) :=
  ExceptT Abort (StateT String (StateT Host (Reporting m))) α

namespace Running

variable {m : Type → Type} [Monad m] {α : Type}

def print (line : String) : Running m Unit :=
  modifyThe String (· ++ line ++ "\n")

/-- Ends with an error that has no other cause. -/
def fail (message : String) : Running m α := throw (.failed message none)

/-- A hosted procedure, with how its failure ends the program. -/
def liftWith (ending : Error → Abort) (task : Hosted m α) : Running m α := do
  let work : StateT Host (Reporting m) (Outcome α) := task.run
  match ← ExceptT.lift (StateT.lift work) with
  | .ok a => pure a
  | .error .fault => throw .fault
  | .error (.error e) => throw (ending e)

/-- A hosted procedure; an error is the end as it is. -/
def ofHosted (task : Hosted m α) : Running m α :=
  liftWith (fun e => .failed e.message none) task

/-- A hosted procedure; an error is the cause of one that is stated here. -/
def within (context : String) (task : Hosted m α) : Running m α :=
  liftWith (fun e => .failed context (some e.message)) task

def readOptions {β : Type} (c : CommandLine β) (start : β)
    (args : List String) : Running m β := do
  match c.read start args with
  | .ok options => pure options
  | .error .help => do
    modifyThe String (· ++ c.help)
    throw (.stopped .help)
  | .error .misuse => throw (.stopped .misuse)

/-- A required option; its absence is a misuse. -/
def required (value : Option α) : Running m α :=
  match value with
  | some a => pure a
  | none => throw (.stopped .misuse)

/-- The text of an error, every line of the cause indented. -/
def errorText (message : String) : Option String → String
  | none => s!"Error: {message}\n"
  | some cause =>
    let lines := (cause.splitOn "\n").map fun line => s!"    {line}\n"
    s!"Error: {message}\n\nCaused by:\n{String.join lines}"

/-- Exit status and error text of an ending. -/
def ending : Except Abort Unit → Nat × String
  | .ok () => (0, "")
  | .error (.stopped .help) => (0, "")
  | .error (.stopped .misuse) => (2, "")
  | .error (.failed message cause) => (1, errorText message cause)
  | .error .fault => (101, "")

/-- Runs a program to its end. -/
def finish (program : Running m Unit) (host : Host) : Reporting m Finished := do
  let ((result, output), _) ← (program.run.run "").run host
  let (exit, errors) := ending result
  pure ⟨exit, output, errors⟩

end Running

end FireNet
