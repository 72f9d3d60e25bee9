/-
The program that scores raw frames: files of bytes without a header, three
for each pixel. It prints a line for each frame and stops at the first one
that it cannot score.
-/
import FireNet.Classifier.Basic
import FireNet.Numeric.Decimal
import FireNet.Program.Running
import FireNet.Settings.Document

set_option autoImplicit false

namespace FireNet.Classify

structure Options where
  frames : List String
  height : Option Nat
  width : Option Nat
  config : Option String
  weights : Option String

def standard : Options := ⟨[], none, none, none, none⟩

/-- A path that is not empty. -/
def path? (text : String) : Option String :=
  if text.isEmpty then none else some text

def commandLine : CommandLine Options where
  name := "classify"
  about := "Score raw RGB8 frames with the fire classifier"
  usage := "[OPTIONS] --height <HEIGHT> --width <WIDTH> <FRAMES>..."
  operands := some ⟨"<FRAMES>...", "Raw RGB8 frame files", fun text o => do
    some { o with frames := o.frames ++ [← path? text] }⟩
  options := [
    ⟨"height", none, "Frame height in pixels",
      .value "HEIGHT" fun text o => do
        some { o with height := some (← readSize? text) }, false⟩,
    ⟨"width", none, "Frame width in pixels",
      .value "WIDTH" fun text o => do
        some { o with width := some (← readSize? text) }, false⟩,
    ⟨"config", some 'c',
      "Classifier configuration (TOML); defaults describe the reference model",
      .value "CONFIG" fun text o => do
        some { o with config := some (← path? text) }, false⟩,
    ⟨"weights", some 'w',
      "Weights directory, overriding the configuration and " ++
        Settings.variableName,
      .value "WEIGHTS" fun text o => do
        some { o with weights := some (← path? text) }, false⟩]

variable {m : Type → Type} [Monad m] [Disk m]

def readSettings (path : String) : Running m Settings :=
  Running.within s!"loading config {path}"
    (Hosted.ofReported (Settings.read path))

def setup (s : Settings) : Running m Classifier :=
  Running.within "classifier setup failed" (Classifier.empty.setup s)

def readBytes (path : String) : Hosted m (Array UInt8) := do
  match ← ExceptT.lift (StateT.lift (StateT.lift (Disk.read path))) with
  | .ok bytes => pure bytes
  | .error e => refuse (Error.file e.message)

def readFrame (path : String) (shape : Shape) : Running m (Tensor UInt8) := do
  let bytes ← Running.within s!"reading {path}" (readBytes path)
  match ← Running.ofHosted (Hosted.ofOption (Tensor.ofArray? shape bytes)) with
  | some frame => pure frame
  | none =>
    Running.fail (s!"{path}: {bytes.size} bytes, " ++
      s!"expected {shape.volume} for a {shape} frame")

/-- Scores frames in order and prints their verdicts; the result is the
number of fires. -/
def scoreAll (shape : Shape) : List String → Classifier → Running m Nat
  | [], _ => pure 0
  | path :: rest, c => do
    let frame ← readFrame path shape
    let (outcome, c) := (Classifier.process frame).runFrom c
    let score ← Running.ofHosted (Hosted.ofOutcome outcome)
    let verdict := Verdict.ofScore score
    Running.print s!"{path}\t{score.fixed 6}\t{verdict.text}"
    let later ← scoreAll shape rest c
    pure ((if verdict.isFire then 1 else 0) + later)

def program (args : List String) : Running m Unit := do
  let o ← Running.readOptions commandLine standard args
  let height ← Running.required o.height
  let width ← Running.required o.width
  if o.frames.isEmpty then throw (.stopped .misuse)
  let s ← match o.config with
    | some path => readSettings path
    | none => pure Settings.standard
  let s ← Running.ofHosted s.override
  let s := { s with weightsDir := o.weights.getD s.weightsDir }
  let c ← setup s
  report .info (s!"classifier ready: {s.height}x{s.width} input, " ++
    s!"weights from {s.weightsDir}")
  let fires ← scoreAll ⟨height, width, rgbChannels⟩ o.frames c
  report .info s!"{fires} of {o.frames.length} frames classified as fire"

end FireNet.Classify
