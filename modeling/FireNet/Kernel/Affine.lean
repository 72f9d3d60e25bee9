/-
The fully connected layer: every output is the bias of its row plus the
inner product of the row with the whole input, computed as the backend
does.
-/
import FireNet.Kernel.Activation
import FireNet.Kernel.Paint
import FireNet.Kernel.Product

set_option autoImplicit false

namespace FireNet.Kernel

/-- One output value. Weights lie row after row, a row for each output. -/
def affineValue? (weights : Array Single) (bias : Option (Array Single))
    (activation : Activation) (input : Array Single) (backend : Backend)
    (o : Nat) : Option Single := do
  let start ← match bias with
    | none => some Single.zero
    | some bias => bias[o]?
  let term ← dotRun? backend weights (o * input.size) input 0 input.size
  some (activation.apply (start + term))

/-- `out[o] = activation (bias[o] + Σ weights[o, i] * input[i])`; a fault
when there is no input or the weights are not one row for each output. -/
def affine? (weights : Array Single) (bias : Option (Array Single))
    (activation : Activation) (input out : Array Single)
    (backend : Backend := .scalar) : Option (Array Single) := do
  let expected ← Size.mul input.size out.size
  if weights.size ≠ expected ∨ input.size = 0 then none
  else
    paint? out.size 1 some
      (fun o _ => affineValue? weights bias activation input backend o) out

end FireNet.Kernel
