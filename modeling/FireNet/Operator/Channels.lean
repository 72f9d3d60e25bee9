/-
Moving channels between tensors: the split hands each half of every
pixel's channels to a tensor of its own, the interleave weaves two tensors
together element by element. Together they are how the two paths of a
block exchange information. Neither computes, so neither claims the engine.
-/
import FireNet.Graph.Bench
import FireNet.Kernel.Paint

set_option autoImplicit false

namespace FireNet

-- ================================================================ split

/-- For every position the first half of the channels goes to `first`, the
rest to `second`. -/
structure Split where
  name : String
  input : TensorId
  first : TensorId
  second : TensorId
  inShape : Shape
  halfShape : Shape

namespace Split

/-- Whether two outputs are the two halves of an input. -/
def check (op : String) (input first second : Shape) (sameOutput : Bool) :
    Outcome Unit := do
  if input.channels = 0 ∨ input.channels % 2 ≠ 0 then
    refuse (Error.config op (.unevenSplit input))
  if first ≠ second then
    refuse (Error.config op (.badPartition first second input))
  let both ← Outcome.ofOption (Size.add first.channels second.channels)
  if both ≠ input.channels then
    refuse (Error.config op (.badPartition first second input))
  if (first.height, first.width) ≠ (input.height, input.width) then
    refuse (Error.config op (.splitExtent first input))
  if sameOutput then
    refuse (Error.config op .sameOutputs)

def setup (name : String) (input first second : TensorId) : Binding Split := do
  let inShape ← Binding.shapeOf input
  let a ← Binding.shapeOf first
  let b ← Binding.shapeOf second
  Step.ofOutcome (check name inShape a b (first == second))
  Binding.note .debug s!"{name}: channel split {inShape} -> 2 x {a}"
  pure ⟨name, input, first, second, inShape, a⟩

/-- Copies the channels from `start` on of each pixel of `input`, `half` of
them, over `out`. -/
def take? (input : Array Single) (half start pixels : Nat)
    (out : Array Single) : Option (Array Single) :=
  Kernel.paint? pixels half some
    (fun p channel => input[p * (2 * half) + (start + channel)]?) out

/-- Fills both outputs. The shortest of the three tensors decides how many
pixels are copied. -/
def forward (s : Split) : Step Arena Unit := do
  Arena.checkBound s.name s.input s.inShape
  Arena.checkBound s.name s.first s.halfShape
  Arena.checkBound s.name s.second s.halfShape
  let half := s.halfShape.channels
  Arena.withOutputs s.first s.second fun arena a b => do
    let input ← arena.data? s.input
    if half = 0 then none
    else
      let pixels :=
        min (input.size / (2 * half)) (min (a.size / half) (b.size / half))
      let a ← take? input half 0 pixels a
      let b ← take? input half half pixels b
      some ((), a, b)

end Split

-- =========================================================== interleave

/-- `out[2 i] = first[i]`, `out[2 i + 1] = second[i]`. -/
structure Interleave where
  name : String
  first : TensorId
  second : TensorId
  output : TensorId
  halfShape : Shape
  outShape : Shape

namespace Interleave

/-- Whether an output takes two equal inputs side by side. -/
def check (op : String) (first second output : Shape) (aliased : Bool) :
    Outcome Unit := do
  if first ≠ second then
    refuse (Error.config op (.differentInputs first second))
  if first.channels = 0 then
    refuse (Error.config op (.emptyInputs first))
  let both ← Outcome.ofOption (Size.add first.channels second.channels)
  if output ≠ first.withChannels both then
    refuse (Error.config op
      (.interleavedShape output (first.withChannels both)))
  if aliased then
    refuse (Error.config op .outputAliasesInput)

def setup (name : String) (first second output : TensorId) :
    Binding Interleave := do
  let a ← Binding.shapeOf first
  let b ← Binding.shapeOf second
  let outShape ← Binding.shapeOf output
  Step.ofOutcome (check name a b outShape (output == first || output == second))
  Binding.note .debug s!"{name}: channel interleave 2 x {a} -> {outShape}"
  pure ⟨name, first, second, output, a, outShape⟩

/-- Pairs up `pairs` elements over `out`. -/
def weave? (first second : Array Single) (pairs : Nat) (out : Array Single) :
    Option (Array Single) :=
  Kernel.paint? pairs 2 some
    (fun i side => if side = 0 then first[i]? else second[i]?) out

def forward (s : Interleave) : Step Arena Unit := do
  Arena.checkBound s.name s.first s.halfShape
  Arena.checkBound s.name s.second s.halfShape
  Arena.checkBound s.name s.output s.outShape
  Arena.withOutput s.output fun arena out => do
    let a ← arena.data? s.first
    let b ← arena.data? s.second
    let data ← weave? a b (min (out.size / 2) (min a.size b.size)) out
    some ((), data)

end Interleave

end FireNet
