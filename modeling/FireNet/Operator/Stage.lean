/-
Stages: a downsampling block followed by blocks that keep the size, each
bound to the output of the one before it.
-/
import FireNet.Operator.Block

set_option autoImplicit false

namespace FireNet

/-- Blocks in execution order, each bound to the output of the one before
it. -/
structure Stage where
  name : String
  /-- The first block, which makes the image smaller. -/
  head : Block
  /-- The blocks after it. -/
  tail : List Block

namespace Stage

def blocks (s : Stage) : List Block := s.head :: s.tail

def output (s : Stage) : TensorId := (s.tail.getLastD s.head).output

/-- The first later block that would make the image smaller again, counted
from `repeat`. -/
def strayDownsample? (index : Nat) : List BlockLayers → Option Nat
  | [] => none
  | b :: rest => if b.isDownsample then some index
      else strayDownsample? (index + 1) rest

/-- Binds block after block, numbered from `index`. -/
def setupBlocks (name : String) (handle : Handle) :
    (index : Nat) → (input : TensorId) → List BlockLayers → Binding (List Block)
  | _, _, [] => pure []
  | index, input, layers :: rest => do
    let block ← Block.setup s!"{name}r{index}" input layers handle
    let later ← setupBlocks name handle (index + 1) block.output rest
    pure (block :: later)

/-- Binds the blocks of stage `number` to an input; stages are numbered
from 2. -/
def setup (number : Nat) (input : TensorId) (layers : StageLayers)
    (handle : Handle) :
    Binding Stage := Binding.balanced do
  let name := s!"s{number}"
  match layers.blocks with
  | [] => refuse (Error.config name .noBlocks)
  | first :: later =>
    if !first.isDownsample then
      refuse (Error.config name .firstBlockKeepsSize)
    if let some index := strayDownsample? 1 later then
      refuse (Error.config s!"{name}r{index}" .laterBlockDownsamples)
    let head ← Block.setup s!"{name}r0" input first handle
    let tail ← setupBlocks name handle 1 head.output later
    pure ⟨name, head, tail⟩

def primitives (s : Stage) : List Primitive := s.blocks.flatMap Block.primitives

def forwardBlocks : List Block → Step Arena Unit
  | [] => pure ()
  | b :: rest => do
    b.forward
    forwardBlocks rest

def forward (s : Stage) : Step Arena Unit := forwardBlocks s.blocks

end Stage

end FireNet
