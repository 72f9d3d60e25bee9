/-
Names of parameter blobs. A layer has an address in the network; a blob is
the weight or the bias half of a layer. Inside the library a blob is always
addressed by its key, and the name is made only where it is stored:
`c1w`, `c5b`, `fcw` for the three fixed layers, `s2r0x1w0` inside the
stages.
-/

set_option autoImplicit false

namespace FireNet

/-- The two paths of a block, by their numbers in blob names. -/
inductive BranchNumber where
  /-- The side branch. -/
  | one
  /-- The main branch. -/
  | two
  deriving DecidableEq

def BranchNumber.digit : BranchNumber → Nat
  | .one => 1
  | .two => 2

/-- Where in the network a layer stands. -/
inductive LayerAddress where
  /-- The first convolution. -/
  | stem
  /-- The last convolution. -/
  | head
  /-- The fully connected layer. -/
  | classifier
  /-- Layer `index` of a branch of block `repetition` of stage `stage`;
  stages count from 2, all else from 0. -/
  | block (stage repetition : Nat) (branch : BranchNumber) (index : Nat)
  deriving DecidableEq

/-- The half of a layer that a blob holds. -/
inductive BlobKind where
  | weight
  | bias
  deriving DecidableEq

def BlobKind.letter : BlobKind → String
  | .weight => "w"
  | .bias => "b"

/-- The address of a blob. -/
structure BlobKey where
  layer : LayerAddress
  kind : BlobKind
  deriving DecidableEq

namespace BlobKey

def weight (layer : LayerAddress) : BlobKey := ⟨layer, .weight⟩

def bias (layer : LayerAddress) : BlobKey := ⟨layer, .bias⟩

/-- The name under which a blob is stored. -/
def name (key : BlobKey) : String :=
  let kind := key.kind.letter
  match key.layer with
  | .stem => s!"c1{kind}"
  | .head => s!"c5{kind}"
  | .classifier => s!"fc{kind}"
  | .block stage repetition branch index =>
    s!"s{stage}r{repetition}x{branch.digit}{kind}{index}"

end BlobKey

end FireNet
