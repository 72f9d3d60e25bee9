/-
Pooling over packed images: the maximum of each window, and the mean over
all positions. Padding takes no part in either.
-/
import FireNet.Kernel.Paint
import FireNet.Numeric.Single

set_option autoImplicit false

namespace FireNet.Kernel

-- ============================================================== maximum

/-- The maximum of one channel over the taps of a position, from negative
infinity on. -/
def maxValue? (input : Array Single) (image : Shape) (taps : List Tap)
    (channel : Nat) : Option Single :=
  taps.foldlM (fun acc t => do
    let v ← input[(t.y * image.width + t.x) * image.channels + channel]?
    some (acc.max v)) Single.negInfinity

/-- Max pooling, written over `out`; pixels of the output have the
channels of the input. -/
def maxPool? (w : Window) (input : Array Single) (image outShape : Shape)
    (out : Array Single) : Option (Array Single) :=
  paint? (outShape.height * outShape.width) image.channels
    (fun p => do
      let taps ← w.taps? image (p / outShape.width) (p % outShape.width)
      if taps.all fun t =>
          (t.y * image.width + t.x) * image.channels + image.channels
            ≤ input.size then
        some taps
      else none)
    (maxValue? input image) out

-- ================================================================= mean

/-- The sum of one channel over the `n` pixels from `p` on, added from the
left to `acc`. A cell past the end counts as zero. -/
def channelSum (input : Array Single) (channels channel : Nat) :
    (n p : Nat) → (acc : Single) → Single
  | 0, _, acc => acc
  | n + 1, p, acc =>
    channelSum input channels channel n (p + 1)
      (acc + input.getD (p * channels + channel) Single.zero)

/-- The mean of each channel over all pixels, written over `out`: the sum
times the reciprocal of the number of positions. -/
def meanPool? (input : Array Single) (image : Shape) (out : Array Single) :
    Option (Array Single) := do
  let positions ← image.positions?
  if out.size ≠ image.channels ∨ image.channels = 0 then none
  else
    let scale := Single.one / Single.ofSize positions
    paint? 1 image.channels some (fun _ channel =>
      some (channelSum input image.channels channel
        (input.size / image.channels) 0 Single.zero * scale)) out

end FireNet.Kernel
