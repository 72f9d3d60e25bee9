/-
Compute backends and how one is asked for. A preference is read from text:
surrounding white space and letter case do not matter, and no text at all
asks for the best backend there is.
-/
import FireNet.Failure

set_option autoImplicit false

namespace FireNet

/-- A way to compute inner products. Both sum the same products, but in
another order and with another rounding, so that the sums may differ in
their last bits (`Kernel.product`). -/
inductive Backend where
  /-- One product after another, each rounded before it is added. -/
  | scalar
  /-- Vector instructions, eight lanes wide, with fused multiply-add. It is
  given on machines that have them. -/
  | vector
  deriving DecidableEq

def Backend.name : Backend → String
  | .scalar => "scalar"
  | .vector => "avx2-fma"

/-- A wish for a backend. -/
inductive Preference where
  | auto
  | scalar
  deriving DecidableEq, Inhabited

namespace Preference

def name : Preference → String
  | auto => "auto"
  | scalar => "scalar"

/-- The backend that a preference leads to on a machine whose best one is
`offered`. -/
def backend (offered : Backend) : Preference → Backend
  | auto => offered
  | scalar => .scalar

/-- The environment variable that overrides a configured preference. -/
def variableName : String := "FLAME_KERNEL_BACKEND"

/-- White space at the ends of a text, in any script. -/
def isBlank (c : Char) : Bool :=
  let n := c.toNat
  (0x9 ≤ n && n ≤ 0xd) || n == 0x20 || n == 0x85 || n == 0xa0 || n == 0x1680 ||
    (0x2000 ≤ n && n ≤ 0x200a) || n == 0x2028 || n == 0x2029 || n == 0x202f ||
    n == 0x205f || n == 0x3000

/-- A text without the white space at its ends. -/
def trimBlank (text : List Char) : List Char :=
  ((text.dropWhile isBlank).reverse.dropWhile isBlank).reverse

def parse (text : String) : Except Error Preference :=
  let word := String.ofList ((trimBlank text.toList).map Char.toLower)
  if word = "" ∨ word = auto.name then .ok auto
  else if word = scalar.name then .ok scalar
  else .error (.engine "backend selection" (.unknownBackend word))

/-- The preference that the variable states, given its value as bytes, or
the configured one when it is unset. -/
def fromVariable (value : Option (List UInt8)) (configured : Preference) :
    Except Error Preference :=
  match value with
  | none => .ok configured
  | some bytes =>
    match Text.decodeUtf8? bytes with
    | some text => parse (String.ofList text)
    | none => .error (.engine Preference.variableName (.notUnicode bytes))

end Preference

end FireNet
