/-
The epilogue of a kernel, applied to each value that it writes.
-/
import FireNet.Numeric.Single

set_option autoImplicit false

namespace FireNet

/-- What happens to a value before it is stored. -/
inductive Activation where
  | identity
  /-- It becomes zero unless it is above zero. -/
  | relu
  deriving DecidableEq, Inhabited

namespace Activation

def apply : Activation → Single → Single
  | identity, v => v
  | relu, v => v.max Single.zero

/-- The name shown in logs and layer lists. -/
def text : Activation → String
  | identity => "Identity"
  | relu => "Relu"

end Activation

end FireNet
