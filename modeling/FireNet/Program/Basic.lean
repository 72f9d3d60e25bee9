/-
The programs of this library, by name.
-/
import FireNet.Program.Demonstrate
import FireNet.Program.GenWeights

set_option autoImplicit false

namespace FireNet

inductive Program where
  | genWeights
  | classify
  | siren
  deriving DecidableEq

namespace Program

def name : Program → String
  | genWeights => GenWeights.commandLine.name
  | classify => Classify.commandLine.name
  | siren => Demonstrate.commandLine.name

def ofName? (name : String) : Option Program :=
  [genWeights, classify, siren].find? (·.name == name)

/-- Runs a program with its arguments, in a process of its own, on a machine
that has vector instructions unless something else is said. -/
def run {m : Type → Type} [Monad m] [Disk m] (program : Program)
    (environment : Environment) (args : List String)
    (offered : Backend := .vector) : Reporting m Finished :=
  let body : Running m Unit := match program with
    | genWeights => GenWeights.program args
    | classify => Classify.program args
    | siren => Demonstrate.program args
  Running.finish body ⟨Engine.idle offered, environment⟩

end Program

end FireNet
