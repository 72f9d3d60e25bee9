/-
Verdicts: what a score means. Scores above zero mean that nothing burns;
zero, negative scores and not-a-number all mean fire.
-/
import FireNet.Numeric.Single

set_option autoImplicit false

namespace FireNet

/-- What a frame shows. -/
inductive Verdict where
  | fire
  | noFire
  deriving DecidableEq

namespace Verdict

def ofScore (score : Single) : Verdict :=
  if Single.zero.less score then .noFire else .fire

def isFire : Verdict → Bool
  | .fire => true
  | .noFire => false

def text : Verdict → String
  | .fire => "FIRE"
  | .noFire => "NO FIRE"

end Verdict

end FireNet
