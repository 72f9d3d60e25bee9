/-
From a raw frame to the input of the network: a bilinear resize to the
fixed output size, then one multiply-add per value that centres and scales
its channel. The colours are red, green, blue.

A normalizer keeps the resized bytes between frames only to save the
buffer. Each run overwrites all of them, so no frame shows in the result
of another.
-/
import FireNet.Kernel.Bilinear
import FireNet.Tensor.Basic

set_option autoImplicit false

namespace FireNet

def rgbChannels : Nat := 3

/-- The mean of each colour over natural images, of full scale 1:
0.485, 0.456, 0.406. -/
def channelMeans : Array Single := #[⟨0x3ef851ec⟩, ⟨0x3ee978d5⟩, ⟨0x3ecfdf3b⟩]

/-- The standard deviation of each colour over natural images:
0.229, 0.224, 0.225. -/
def channelDeviations : Array Single :=
  #[⟨0x3e6a7efa⟩, ⟨0x3e656042⟩, ⟨0x3e666666⟩]

/-- Turns frames of any size into tensors of one size. -/
structure Normalizer where
  output : Shape
  resized : Array UInt8

namespace Normalizer

def op : String := "preprocess"

/-- What a byte of a channel is multiplied by. -/
def scale (channel : Nat) : Single :=
  Single.one / (Single.ofSize 255 * channelDeviations.getD channel Single.zero)

/-- What is added afterwards. -/
def offset (channel : Nat) : Single :=
  -channelMeans.getD channel Single.zero
    / channelDeviations.getD channel Single.zero

def create (height width : Nat) : Outcome Normalizer := do
  if height = 0 ∨ width = 0 then
    refuse (Error.config op (.zeroOutput height width))
  let output : Shape := ⟨height, width, rgbChannels⟩
  let resized : Tensor UInt8 ← Outcome.ofOption (Tensor.zeros? output)
  pure ⟨output, resized.data⟩

/-- The normalised values of resized bytes, written over `out`. -/
def spread? (n : Normalizer) (out : Array Single) : Option (Array Single) :=
  Kernel.paint? (n.output.height * n.output.width) rgbChannels some
    (fun p channel => do
      let byte ← n.resized[p * rgbChannels + channel]?
      some (Single.ofByte byte * scale channel + offset channel)) out

/-- Writes the normalised frame over `out`. All checks come before the
first write. -/
def run (frame : Tensor UInt8) (out : Array Single) :
    Step Normalizer (Array Single) := do
  let n ← get
  let image := frame.shape
  if image.channels ≠ rgbChannels then
    refuse (Error.config op (.notRgb image))
  if (← Step.ofOption image.size?) = 0 then
    refuse (Error.config op (.emptyFrame image))
  let expected ← Step.ofOption n.output.size?
  if out.size ≠ expected then
    refuse (Error.config op (.destination out.size expected))
  let resized ←
    Step.ofOption (Kernel.resize? frame.data image n.output n.resized)
  let n := { n with resized := resized }
  set n
  Step.ofOption (n.spread? out)

/-- The normalised frame as a tensor of its own. -/
def process (frame : Tensor UInt8) : Step Normalizer (Tensor Single) := do
  let n ← get
  let fresh : Tensor Single ← Step.ofOption (Tensor.zeros? n.output)
  let data ← run frame fresh.data
  pure ⟨n.output, data⟩

end Normalizer

end FireNet
