/-
The program that writes random weights for an architecture, or only lists
the blobs that there would be.
-/
import FireNet.Numeric.Decimal
import FireNet.Program.Running
import FireNet.Weights.Random
import FireNet.Weights.Store

set_option autoImplicit false

namespace FireNet.GenWeights

/-- The options of the program. Lists of the architecture that are not
given are those of the reference. -/
structure Options where
  output : Option String
  seed : Nat
  repeats : Option (List Nat)
  widths : Option (List Nat)
  dryRun : Bool

def standard : Options := ⟨none, 1, none, none, false⟩

/-- Sizes with commas between them, after the ones there are. -/
def appendSizes? (text : String) (given : Option (List Nat)) :
    Option (List Nat) := do
  let sizes ← (text.splitOn ",").mapM readSize?
  some (given.getD [] ++ sizes)

/-- A path that is not empty. -/
def path? (text : String) : Option String :=
  if text.isEmpty then none else some text

/-- A list as the help text shows it. -/
def shown (sizes : List Nat) : String := " ".intercalate (sizes.map toString)

def commandLine : CommandLine Options where
  name := "gen_weights"
  about := "Write a random-weight blob directory for the classifier"
  usage := "[OPTIONS] --output <OUTPUT>"
  operands := none
  options := [
    ⟨"output", some 'o', "Output directory (created if missing)",
      .value "OUTPUT" fun text o => do
        some { o with output := some (← path? text) }, false⟩,
    ⟨"seed", none, "RNG seed [default: 1]",
      .value "SEED" fun text o => do some { o with seed := ← readSize? text },
      false⟩,
    ⟨"stage-repeats", none,
      s!"Blocks per stage [default: {shown Architecture.reference.repeats}]",
      .value "STAGE_REPEATS" fun text o => do
        some { o with repeats := some (← appendSizes? text o.repeats) }, true⟩,
    ⟨"stage-widths", none,
      "Stem width, one width per stage, head width " ++
        s!"[default: {shown Architecture.reference.widths}]",
      .value "STAGE_WIDTHS" fun text o => do
        some { o with widths := some (← appendSizes? text o.widths) }, true⟩,
    ⟨"dry-run", none, "Only print the blob manifest",
      .switch fun o => { o with dryRun := true }, false⟩]

variable {m : Type → Type} [Monad m]

/-- Prints the manifest, a blob a line. -/
def printManifest (p : Parameters) : Running m Unit :=
  p.manifest.forM fun (key, count) => Running.print s!"{key.name}\t{count}"

def program [Disk m] (args : List String) : Running m Unit := do
  let o ← Running.readOptions commandLine standard args
  let output ← Running.required o.output
  let architecture : Architecture :=
    ⟨o.repeats.getD Architecture.reference.repeats,
      o.widths.getD Architecture.reference.widths⟩
  let p ← Running.within "invalid architecture"
    (Hosted.ofOutcome (Parameters.declare architecture))
  if o.dryRun then printManifest p
  else do
    let p := p.randomize o.seed.toUInt64
    Running.within s!"writing blobs to {output}"
      (Hosted.ofReported (p.saveTo output))
    report .info s!"wrote {p.elements} floats (seed {o.seed}) to {output}"

end FireNet.GenWeights
