/-
The fire detector: it turns scores and temperatures into alarm reports.
What scores the frames and what the alarm is do not matter to it.
-/
import FireNet.Classifier.Verdict
import FireNet.Numeric.Fixed
import FireNet.Journal
import FireNet.Tensor.Basic

set_option autoImplicit false

namespace FireNet

structure Detector (m : Type → Type) where
  process (frame : Tensor UInt8) : Reported m Single
  reportFire : Reporting m Unit
  /-- The temperature above which it burns, in degrees Celsius. -/
  threshold : Single

namespace Detector

/-- The usual threshold: 200 degrees. -/
def standardThreshold : Single := ⟨0x43480000⟩

variable {m : Type → Type} [Monad m]

def onFrame (d : Detector m) (frame : Tensor UInt8) : Reported m Verdict := do
  let score ← d.process frame
  let verdict := Verdict.ofScore score
  report .info s!"score {score.fixed 4} ({verdict.text})"
  if verdict.isFire then
    ExceptT.lift d.reportFire
  pure verdict

def isHot (threshold celsius : Single) : Bool := threshold.less celsius

/-- Takes in one temperature; tells whether it raised the alarm. -/
def onCelsius (d : Detector m) (celsius : Single) : Reporting m Bool := do
  report .info s!"temperature {celsius.fixed 1} C"
  if isHot d.threshold celsius then
    d.reportFire
    pure true
  else pure false

/-- What to install in a temperature sensor. -/
def celsiusReceiver (d : Detector m) (celsius : Single) : Reporting m Unit := do
  let _ ← d.onCelsius celsius

/-- What to install in a camera. A frame that cannot be scored is reported
and dropped; a fault goes on to the caller. -/
def frameReceiver (d : Detector m) (frame : Tensor UInt8) :
    Reported m Unit := do
  match ← ExceptT.lift (d.onFrame frame).run with
  | .ok _ => pure ()
  | .error .fault => throw .fault
  | .error (.error e) => report .warn s!"frame dropped: {e.message}"

end Detector

end FireNet
