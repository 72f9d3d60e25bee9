/-
The program that lets the appliance run for a while. With a settings file
the classifier is set up as well, as it is when the appliance starts.
-/
import FireNet.Appliance.Siren
import FireNet.Program.Classify

set_option autoImplicit false

namespace FireNet.Demonstrate

structure Options where
  seconds : Nat
  period : Nat
  threshold : Single
  config : Option String

def standard : Options := ⟨5, standardPeriod, Detector.standardThreshold, none⟩

def commandLine : CommandLine Options where
  name := "siren"
  about := "Run the mock sensor and log alarm for a while"
  usage := "[OPTIONS]"
  operands := none
  options := [
    ⟨"seconds", none, "How long to run [default: 5]",
      .value "SECONDS" fun text o => do
        some { o with seconds := ← readSize? text }, false⟩,
    ⟨"period-ms", none,
      "Sensor period / alarm poll interval in milliseconds " ++
        s!"[default: {standardPeriod}]",
      .value "PERIOD_MS" fun text o => do
        some { o with period := ← readSize? text }, false⟩,
    ⟨"threshold", none,
      "Temperature (°C) above which the alarm goes off [default: 200]",
      .value "THRESHOLD" fun text o => do
        some { o with threshold := ← Single.read? text }, false⟩,
    ⟨"config", some 'c',
      "Classifier configuration; when given the classifier is loaded too",
      .value "CONFIG" fun text o => do
        some { o with config := some (← Classify.path? text) }, false⟩]

/-- The periods that fit into the time. -/
def Options.periods (o : Options) : Nat := o.seconds * 1000 / o.period

variable {m : Type → Type} [Monad m]

/-- Runs the appliance by a schedule; the result is the number of notices. -/
def runSiren (o : Options) : Running m Nat := do
  report .info s!"running for {o.seconds}s, threshold {o.threshold.fixed 1} C"
  match (Siren.fresh o.threshold).run (Siren.demonstration o.periods) with
  | none => throw .fault
  | some (s, said) =>
    modifyThe Journal (· ++ said.toArray)
    pure s.alarm.delivered

def program [Disk m] (args : List String) : Running m Unit := do
  let o ← Running.readOptions commandLine standard args
  if let some path := o.config then
    let s ← Classify.readSettings path
    let _ ← Classify.setup (← Running.ofHosted s.override)
  let delivered ← runSiren o
  report .info s!"{delivered} fire notices delivered"

end FireNet.Demonstrate
