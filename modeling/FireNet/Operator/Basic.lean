/-
Operators: anything that can be bound to arena tensors and then run, from
a single kernel to a whole stage.
-/
import FireNet.Operator.Stage

set_option autoImplicit false

namespace FireNet

/-- Anything that can be bound and run. -/
inductive Operator where
  | primitive (p : Primitive)
  | split (s : Split)
  | interleave (i : Interleave)
  | sideBranch (b : SideBranch)
  | mainBranch (b : MainBranch)
  | block (b : Block)
  | stage (s : Stage)

namespace Operator

def name : Operator → String
  | primitive p => p.name
  | split s => s.name
  | interleave i => i.name
  | sideBranch b => b.name
  | mainBranch b => b.name
  | block b => b.name
  | stage s => s.name

def primitives : Operator → List Primitive
  | primitive p => [p]
  | split _ => []
  | interleave _ => []
  | sideBranch b => b.primitives
  | mainBranch b => b.primitives
  | block b => b.primitives
  | stage s => s.primitives

/-- How many claims on the engine an operator holds: one for each
primitive. -/
def claims (o : Operator) : Nat := o.primitives.length

/-- The tensors that hold the result. -/
def outputs : Operator → List TensorId
  | primitive p => [p.output]
  | split s => [s.first, s.second]
  | interleave i => [i.output]
  | sideBranch b => [b.output]
  | mainBranch b => [b.output]
  | block b => [b.output]
  | stage s => [s.output]

def forward : Operator → Step Arena Unit
  | primitive p => p.forward
  | split s => s.forward
  | interleave i => i.forward
  | sideBranch b => b.forward
  | mainBranch b => b.forward
  | block b => b.forward
  | stage s => s.forward

end Operator

end FireNet
