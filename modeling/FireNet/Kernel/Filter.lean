/-
Convolution kernels over packed images, dense and per channel.

A value of the output is a left-to-right sum: it starts at the bias of its
channel, or at zero, and takes one term for each kernel cell that falls on
the image, row after row; cells in the padding are skipped. The activation
comes last. The terms of a dense convolution are inner products over the
input channels, each computed as the backend does.

Lengths are checked as the bound operators promise them; a buffer that
breaks the promise is a fault. These checks are debug assertions: a
development build makes them, and a release build leaves them out and goes
on until an index is out of range. There the pixel loop of `pointwise?`
finds no pixel in a missing image, and the output stays as it was.
-/
import FireNet.Kernel.Activation
import FireNet.Kernel.Paint
import FireNet.Kernel.Product

set_option autoImplicit false

namespace FireNet

/-- What a convolution multiplies with, and its epilogue. -/
structure Filter where
  weights : Array Single
  bias : Option (Array Single)
  window : Window
  activation : Activation

namespace Filter

/-- The bias of an output channel, zero without a bias. -/
def biasAt? (f : Filter) (channel : Nat) : Option Single :=
  match f.bias with
  | none => some Single.zero
  | some bias => bias[channel]?

/-- Whether a bias, if any, has a value for each channel and no more. -/
def biasFits (f : Filter) (channels : Nat) : Bool :=
  match f.bias with
  | none => true
  | some bias => bias.size == channels

/-- Whether the kernel is a single cell that visits every pixel in place. -/
def isPointwise (w : Window) : Bool :=
  w.vertical.kernel == 1 && w.horizontal.kernel == 1 &&
    w.vertical.stride == 1 && w.horizontal.stride == 1 &&
    w.vertical.padding == 0 && w.horizontal.padding == 0

/-- How many weights a dense kernel has, in words. -/
def denseWeights? (w : Window) (inputs outputs : Nat) : Option Nat := do
  let a ← Size.mul outputs w.vertical.kernel
  let b ← Size.mul a w.horizontal.kernel
  Size.mul b inputs

-- ================================================================ dense

variable (f : Filter) (input : Array Single) (image : Shape)

/-- One output value of a dense convolution from the taps of its position.
Weights lie in the order output channel, kernel row, kernel column, input
channel. -/
def denseValue? (backend : Backend) (taps : List Tap) (o : Nat) :
    Option Single := do
  let start ← f.biasAt? o
  let total ← taps.foldlM (fun acc t => do
    let cell := (o * f.window.vertical.kernel + t.row)
      * f.window.horizontal.kernel + t.column
    let pixel := (t.y * image.width + t.x) * image.channels
    let term ←
      Kernel.dotRun? backend input pixel f.weights (cell * image.channels)
        image.channels
    some (acc + term)) start
  some (f.activation.apply total)

/-- One output value of a pointwise convolution: the bias plus one inner
product. -/
def pointwiseValue? (backend : Backend) (p o : Nat) : Option Single := do
  let start ← f.biasAt? o
  let term ← Kernel.dotRun? backend input (p * image.channels) f.weights
    (o * image.channels) image.channels
  some (f.activation.apply (start + term))

/-- Dense convolution by one inner product for each value. Pixels of input
and output are paired in order; the shorter side decides how many are
written. -/
def pointwise? (backend : Backend) (outputs : Nat) (out : Array Single) :
    Option (Array Single) :=
  if image.channels = 0 ∨ outputs = 0 then none
  else
    Kernel.paint? (min (input.size / image.channels) (out.size / outputs))
      outputs some (f.pointwiseValue? input image backend) out

/-- Dense convolution by the general sum over taps. -/
def dense? (backend : Backend) (outShape : Shape) (out : Array Single) :
    Option (Array Single) :=
  if 0 < outShape.height * outShape.width
    ∧ !f.biasFits outShape.channels then none
  else
    Kernel.paint? (outShape.height * outShape.width) outShape.channels
      (fun p => f.window.taps? image (p / outShape.width) (p % outShape.width))
      (f.denseValue? input image backend) out

/-- Dense convolution with zero padding, written over `out`. Its faults
include the debug assertions on the three lengths. -/
def convolve? (outShape : Shape) (out : Array Single)
    (backend : Backend := .scalar) : Option (Array Single) := do
  let inSize ← image.size?
  let outSize ← outShape.size?
  let weights ← denseWeights? f.window image.channels outShape.channels
  if input.size ≠ inSize ∨ out.size ≠ outSize
    ∨ f.weights.size ≠ weights then none
  else if isPointwise f.window then
    f.pointwise? input image backend outShape.channels out
  else f.dense? input image backend outShape out

-- ========================================================== per channel

/-- One output value of a per-channel convolution. Weights lie in the order
channel, kernel row, kernel column. -/
def depthwiseValue? (cells : Nat) (taps : List Tap) (channel : Nat) :
    Option Single := do
  let start ← f.biasAt? channel
  let total ← taps.foldlM (fun acc t => do
    let v ← input[(t.y * image.width + t.x) * image.channels + channel]?
    let w ←
      f.weights[channel * cells
        + (t.row * f.window.horizontal.kernel + t.column)]?
    some (acc + v * w)) start
  some (f.activation.apply total)

/-- Convolution of each channel with a kernel of its own, zero padding. Its
faults include the debug assertions on the lengths. -/
def depthwise? (outShape : Shape) (out : Array Single) :
    Option (Array Single) := do
  let cells ← Size.mul f.window.vertical.kernel f.window.horizontal.kernel
  let weights ← Size.mul image.channels cells
  if image.channels ≠ outShape.channels ∨ f.weights.size ≠ weights then none
  else if 0 < outShape.height * outShape.width
    ∧ !f.biasFits image.channels then none
  else
    Kernel.paint? (outShape.height * outShape.width) image.channels
      (fun p => do
        let taps ←
          f.window.taps? image (p / outShape.width) (p % outShape.width)
        if taps.all fun t =>
            (t.y * image.width + t.x) * image.channels + image.channels
              ≤ input.size then
          some taps
        else none)
      (f.depthwiseValue? input image cells) out

end Filter

end FireNet
