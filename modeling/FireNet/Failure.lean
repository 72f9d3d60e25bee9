/-
What can go wrong. An *error* is a refusal with a cause, reported to the
caller; a *fault* is broken arithmetic, a bad index or unequal lengths,
after which nothing more is said. `Failure` is either.

Each cause is a constructor of `Reason`, and its wording stands in
`Reason.message` alone.
-/
import FireNet.Text.Quoted
import FireNet.Window.Basic

set_option autoImplicit false

namespace FireNet

-- ============================================================== reasons

/-- The side of an operator that a tensor is bound to. -/
inductive Port where
  | input
  | output
  deriving DecidableEq

def Port.text : Port → String
  | .input => "input"
  | .output => "output"

/-- Why something was refused. -/
inductive Reason where
  /-- A cause that code outside this library words. -/
  | stated (text : String)
  -- tensors against parameters
  | noChannels (port : Port) (shape : Shape)
  | channelCount (port : Port) (shape : Shape) (expected : Nat)
  | outputExtent (output : Shape) (height width : Nat)
  | weightCount (actual expected : Nat)
  | biasCount (actual expected : Nat)
  | unevenDepthwise (inputs outputs : Nat)
  | noFeatures (input : Shape)
  | featureCount (port : Port) (shape : Shape) (actual expected : Nat)
  -- channel split and interleave
  | unevenSplit (input : Shape)
  | badPartition (first second input : Shape)
  | splitExtent (output input : Shape)
  | sameOutputs
  | differentInputs (first second : Shape)
  | emptyInputs (input : Shape)
  | interleavedShape (output expected : Shape)
  | outputAliasesInput
  -- blocks and stages
  | blockInput (input : Shape) (expected : Nat)
  | oddBlockWidth (width : Nat)
  | widthChange (inputs outputs : Nat)
  | strideAgainstBranch (stride : Nat) (present : Bool)
  | noBlocks
  | firstBlockKeepsSize
  | laterBlockDownsamples
  -- architecture and settings
  | widthCount (widths stages : Nat)
  | noRepeats (stage : Nat)
  | zeroWidth
  | oddStageWidth (width : Nat)
  | zeroResolution (height width : Nat)
  -- frames and classification
  | zeroOutput (height width : Nat)
  | notRgb (frame : Shape)
  | emptyFrame (frame : Shape)
  | destination (actual expected : Nat)
  | notReady
  | modelInput (actual expected : Shape)
  -- the compute engine
  | dilated
  | unsupportedWindow (window : Window) (input : Shape)
  | paddingCovers (paddingHeight paddingWidth extentHeight extentWidth : Nat)
  | emptyInput (input : Shape)
  | zeroStride
  | boundLength (tensor actual : Nat) (bound : Shape)
  | noOutput
  | unknownBackend (text : String)
  | notUnicode (bytes : List UInt8)
  -- parameter blobs
  | unreadable (path cause : String)
  | noSuchBlob

namespace Reason

/-- A kernel, stride, padding or dilation pair as `HxW`. -/
private def pair (height width : Nat) : String := s!"{height}x{width}"

def message : Reason → String
  | stated text => text
  | noChannels port shape => s!"{port.text} {shape} has no channels"
  | channelCount port shape expected =>
    s!"{port.text} has {shape.channels} channels ({shape}), expected {expected}"
  | outputExtent output height width =>
    s!"output tensor is {output}, computed spatial size is {height}x{width}"
  | weightCount actual expected =>
    s!"weight blob has {actual} elements, expected {expected}"
  | biasCount actual expected =>
    s!"bias blob has {actual} elements, expected {expected}"
  | unevenDepthwise inputs outputs =>
    s!"depthwise parameters map {inputs} channels to {outputs}"
  | noFeatures input => s!"input {input} has no features"
  | featureCount port shape actual expected =>
    s!"{port.text} {shape} has {actual} features, expected {expected}"
  | unevenSplit input => s!"cannot split {input} into two non-empty halves"
  | badPartition first second input =>
    s!"outputs {first} and {second} do not partition {input}"
  | splitExtent output input =>
    s!"outputs {output} differ spatially from input {input}"
  | sameOutputs => "both outputs bound to the same tensor"
  | differentInputs first second =>
    s!"inputs {first} and {second} differ in shape"
  | emptyInputs input => s!"inputs {input} have no channels"
  | interleavedShape output expected =>
    s!"output is {output}, expected {expected}"
  | outputAliasesInput => "output aliases an input"
  | blockInput input expected =>
    s!"input {input} has {input.channels} channels, expected {expected}"
  | oddBlockWidth width =>
    s!"output width {width} cannot be split between two branches"
  | widthChange inputs outputs =>
    s!"stride-1 block must preserve width, got {inputs} -> {outputs}"
  | strideAgainstBranch stride present =>
    s!"stride {stride} does not match branch1 "
      ++ (if present then "present" else "absent")
  | noBlocks => "stage has no blocks"
  | firstBlockKeepsSize => "first block must downsample"
  | laterBlockDownsamples => "only the first block of a stage may downsample"
  | widthCount widths stages =>
    s!"{widths} stage widths for {stages} stages " ++
      "(expected stem + one per stage + head)"
  | noRepeats stage => s!"stage s{stage} has zero repeats"
  | zeroWidth => "channel widths must be non-zero"
  | oddStageWidth width =>
    s!"stage width {width} cannot be split between two branches"
  | zeroResolution height width =>
    s!"resolution {height}x{width} must be non-zero"
  | zeroOutput height width => s!"output size {height}x{width} must be non-zero"
  | notRgb frame => s!"frame {frame} is not 3-channel RGB"
  | emptyFrame frame => s!"empty frame {frame}"
  | destination actual expected =>
    s!"destination holds {actual} values, expected {expected}"
  | notReady => "process called before setup"
  | modelInput actual expected =>
    s!"tensor is {actual}, model was set up for {expected}"
  | dilated => "convolutions do not support dilation"
  | unsupportedWindow window input =>
    let v := window.vertical
    let h := window.horizontal
    s!"unsupported window {pair v.kernel h.kernel} " ++
      s!"stride {pair v.stride h.stride} " ++
      s!"padding {pair v.padding h.padding} " ++
      s!"dilation {pair v.dilation h.dilation} over input {input}"
  | paddingCovers paddingHeight paddingWidth extentHeight extentWidth =>
    s!"padding {pair paddingHeight paddingWidth} must be smaller than " ++
      s!"the dilated window {pair extentHeight extentWidth}"
  | emptyInput input => s!"empty input {input}"
  | zeroStride => "zero stride"
  | boundLength tensor actual bound =>
    s!"bound tensor t{tensor} holds {actual} elements, bound as {bound}"
  | noOutput => "classifier produced no output"
  | unknownBackend text =>
    s!"unsupported backend {Text.quote text} (expected \"auto\" or \"scalar\")"
  | notUnicode bytes =>
    s!"environment variable was not valid unicode: {Text.quoteBytes bytes}"
  | unreadable path cause => s!"{path}: {cause}"
  | noSuchBlob => "no such blob"

end Reason

-- =============================================================== errors

/-- A refusal. The first field of most names what was refused: an operator
path such as `s3r0.branch2.conv0`, or a parameter blob. -/
inductive Error where
  /-- Shapes, counts or settings that do not belong together. -/
  | config (op : String) (reason : Reason)
  /-- A parameter blob that cannot be read. -/
  | load (blob : String) (reason : Reason)
  /-- A parameter blob of another length than its layer has, in bytes. -/
  | blobSize (blob : String) (expected actual : Nat)
  /-- A request that the compute engine does not serve. -/
  | engine (op : String) (reason : Reason)
  /-- A file that cannot be read or written. -/
  | file (cause : String)
  | malformed

namespace Error

/-- The text that a user sees; that of a parse error is not defined. -/
def message : Error → String
  | config op reason => s!"configuration error in {op}: {reason.message}"
  | load blob reason =>
    s!"failed to load parameter blob {blob}: {reason.message}"
  | blobSize blob expected actual =>
    s!"parameter blob {blob} size mismatch: " ++
      s!"expected {expected} bytes, got {actual} bytes"
  | engine op reason => s!"kernel engine rejected {op}: {reason.message}"
  | file cause => cause
  | malformed => ""

def isConfig : Error → Bool
  | config .. => true
  | _ => false

def isLoad : Error → Bool
  | load .. => true
  | blobSize .. => true
  | _ => false

def isEngine : Error → Bool
  | engine .. => true
  | _ => false

end Error

/-- The end of a computation that has no result. -/
inductive Failure where
  /-- Broken arithmetic, a bad index or unequal lengths. -/
  | fault
  | error (e : Error)

def refuse {m : Type → Type} {α : Type} [MonadExcept Failure m] (e : Error) :
    m α :=
  throw (Failure.error e)

-- ============================================================= outcomes

/-- A result, or the failure that stands in its place. -/
abbrev Outcome (α : Type) := Except Failure α

namespace Outcome

/-- A computation in words as an outcome: `none` is a fault. -/
def ofOption {α : Type} : Option α → Outcome α
  | some a => .ok a
  | none => .error .fault

end Outcome

/-- A step on a state. Also when it fails, the state that it leaves is known:
what was done before the failure stays done. -/
abbrev Step (σ : Type) (α : Type) := EStateM Failure σ α

namespace Step

variable {σ α : Type}

def ofOutcome (outcome : Outcome α) : Step σ α := fun s =>
  match outcome with
  | .ok a => .ok a s
  | .error e => .error e s

/-- A computation in words that does not touch the state. -/
def ofOption (value : Option α) : Step σ α := ofOutcome (Outcome.ofOption value)

def fault : Step σ α := fun s => .error .fault s

def runFrom (step : Step σ α) (s : σ) : Outcome α × σ :=
  match step s with
  | .ok a s => (.ok a, s)
  | .error e s => (.error e, s)

end Step

end FireNet
