/-
Plans: operators that are yet to be bound. Every kind of set-up is one
function here, so a statement about all of them is a statement about
`Plan.bind`.
-/
import FireNet.Operator.Basic

set_option autoImplicit false

namespace FireNet

/-- What to bind, and to which tensors. -/
inductive Plan where
  | primitive (name : String) (action : Action) (input output : TensorId)
  | split (name : String) (input first second : TensorId)
  | interleave (name : String) (first second output : TensorId)
  | sideBranch (name : String) (input : TensorId) (layers : SideLayers)
  | mainBranch (name : String) (input : TensorId) (layers : MainLayers)
  | block (name : String) (input : TensorId) (layers : BlockLayers)
  | stage (number : Nat) (input : TensorId) (layers : StageLayers)

def Plan.bind (handle : Handle) : Plan → Binding Operator
  | primitive name action input output =>
    .primitive <$> Primitive.setup name action input output handle
  | split name input first second => .split
      <$> Split.setup name input first second
  | interleave name first second output =>
    .interleave <$> Interleave.setup name first second output
  | sideBranch name input layers => .sideBranch
      <$> SideBranch.setup name input layers handle
  | mainBranch name input layers => .mainBranch
      <$> MainBranch.setup name input layers handle
  | block name input layers => .block <$> Block.setup name input layers handle
  | stage number input layers => .stage
      <$> Stage.setup number input layers handle

end FireNet
