/-
The layers of a network unit. A block joins two paths: a side branch,
which only downsampling blocks have, and the main branch. A stage is a
downsampling block followed by blocks that keep the size.
-/
import FireNet.Layer.Basic

set_option autoImplicit false

namespace FireNet

/-- The side branch of a downsampling block, in execution order. -/
structure SideLayers where
  depthwise : Layer
  pointwise : Layer
  deriving DecidableEq

/-- The main branch of a block, in execution order. -/
structure MainLayers where
  reduce : Layer
  depthwise : Layer
  expand : Layer
  deriving DecidableEq

structure BlockLayers where
  outputs : Nat
  inputs : Nat
  stride : Nat
  side : Option SideLayers
  main : MainLayers
  deriving DecidableEq

/-- The layers of one stage, block after block. -/
structure StageLayers where
  blocks : List BlockLayers
  deriving DecidableEq

namespace SideLayers

/-- Zeros, for a block of `outputs` channels in total. -/
def declare? (outputs inputs stride : Nat) : Option SideLayers := do
  let depthwise ← Layer.depthwise? inputs 3 stride 1 .identity
  let pointwise ← Layer.pointwise? (outputs / 2) inputs .relu
  some ⟨depthwise, pointwise⟩

def toList (s : SideLayers) : List Layer := [s.depthwise, s.pointwise]

end SideLayers

namespace MainLayers

/-- Zeros, for a block of `outputs` channels in total. With stride 1 the
branch sees only the second half of the input. -/
def declare? (outputs inputs stride : Nat) : Option MainLayers := do
  let half := outputs / 2
  let reduce ← Layer.pointwise? half (if 1 < stride then inputs else half) .relu
  let depthwise ← Layer.depthwise? half 3 stride 1 .identity
  let expand ← Layer.pointwise? half half .relu
  some ⟨reduce, depthwise, expand⟩

def toList (m : MainLayers) : List Layer := [m.reduce, m.depthwise, m.expand]

end MainLayers

namespace BlockLayers

/-- Zeros. There is a side branch exactly when the stride is above 1. -/
def declare? (outputs inputs stride : Nat) : Option BlockLayers := do
  let side ←
    if 1 < stride then (SideLayers.declare? outputs inputs stride).map some
    else some none
  let main ← MainLayers.declare? outputs inputs stride
  some ⟨outputs, inputs, stride, side, main⟩

/-- The bytes that one block takes in the list of its stage. -/
def bytes : Nat := 64

/-- Whether the stride makes the image smaller. -/
def isDownsample (b : BlockLayers) : Bool := 1 < b.stride

end BlockLayers

namespace StageLayers

/-- Zeros: `repeats` blocks from `inputs` to `outputs` channels, of which
the first halves the image. A list that no buffer could hold is a fault
before any block is made. -/
def declare? (repeats outputs inputs : Nat) : Option StageLayers :=
  if Size.maxBytes < repeats * BlockLayers.bytes then none
  else
    match repeats with
    | 0 => some ⟨[]⟩
    | n + 1 => do
      let first ← BlockLayers.declare? outputs inputs 2
      let later ← (List.replicate n ()).mapM fun _ =>
        BlockLayers.declare? outputs outputs 1
      some ⟨first :: later⟩

/-- The output channels of the last block, if there is one. -/
def outputs? (s : StageLayers) : Option Nat := s.blocks.getLast?.map (·.outputs)

end StageLayers

end FireNet
