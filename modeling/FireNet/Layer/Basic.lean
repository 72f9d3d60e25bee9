/-
Layer parameters: the weights and bias of one primitive, with the geometry
that they were declared for. A layer is declared at its final length, all
zeros; loading overwrites values only.
-/
import FireNet.Kernel.Filter
import FireNet.Tensor.Basic

set_option autoImplicit false

namespace FireNet

structure Layer where
  inputs : Nat
  outputs : Nat
  window : Window
  activation : Activation
  weights : Array Single
  bias : Option (Array Single)
  deriving DecidableEq

namespace Layer

/-- A layer of zeros with `weights` weights and a bias for each output. -/
def declare? (inputs outputs weights : Nat) (window : Window)
    (activation : Activation) : Option Layer := do
  let values ← zeros? Single weights
  let bias ← zeros? Single outputs
  some ⟨inputs, outputs, window, activation, values, some bias⟩

/-- A dense convolution, weights in the order output, row, column, input. -/
def convolution? (outputs inputs kernel stride padding : Nat)
    (activation : Activation) : Option Layer := do
  let a ← Size.mul outputs kernel
  let b ← Size.mul a kernel
  let weights ← Size.mul b inputs
  declare? inputs outputs weights (Window.square kernel stride padding)
    activation

/-- A dense convolution with a single cell that visits every pixel. -/
def pointwise? (outputs inputs : Nat) (activation : Activation) :
    Option Layer :=
  convolution? outputs inputs 1 1 0 activation

/-- A convolution of each channel by itself, weights in the order channel,
row, column. -/
def depthwise? (channels kernel stride padding : Nat)
    (activation : Activation) : Option Layer := do
  let a ← Size.mul channels kernel
  let weights ← Size.mul a kernel
  declare? channels channels weights (Window.square kernel stride padding)
    activation

/-- A fully connected layer, weights in the order output, input. -/
def fullyConnected? (outputs inputs : Nat) (activation : Activation) :
    Option Layer := do
  let weights ← Size.mul outputs inputs
  declare? inputs outputs weights (Window.square 1 1 0) activation

def elements (l : Layer) : Nat :=
  l.weights.size + (match l.bias with
    | some bias => bias.size
    | none => 0)

def filter (l : Layer) : Filter := ⟨l.weights, l.bias, l.window, l.activation⟩

/-- Equality of values: all geometry equal, and weights and biases equal
as numbers. -/
def equal (a b : Layer) : Bool :=
  a.inputs == b.inputs && a.outputs == b.outputs && a.window == b.window &&
    a.activation == b.activation && equalAll a.weights b.weights &&
    (match a.bias, b.bias with
      | some x, some y => equalAll x y
      | none, none => true
      | _, _ => false)

end Layer

end FireNet
