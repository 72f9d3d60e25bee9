/-
Numbers with a fixed count of decimal places. The exact value is rounded,
a tie to the even neighbour; there is never an exponent, and the sign of a
negative number stays when the digits are all zero.
-/
import FireNet.Numeric.Single

set_option autoImplicit false

namespace FireNet

/-- A quotient rounded to the nearest integer, ties to even. -/
def roundQuotient (num den : Nat) : Nat :=
  let quotient := num / den
  let rest := num % den
  if 2 * rest < den then quotient
  else if den < 2 * rest then quotient + 1
  else quotient + quotient % 2

/-- The quotient `num / den` with `places` decimals, at least one. -/
def fixedQuotient (num den places : Nat) : String :=
  let scaled := roundQuotient (num * Nat.pow 10 places) den
  let decimals := toString (scaled % Nat.pow 10 places)
  let zeros := String.ofList (List.replicate (places - decimals.length) '0')
  s!"{scaled / Nat.pow 10 places}.{zeros}{decimals}"

namespace Single

def isNegative (v : Single) : Bool := v.bits &&& 0x80000000 != 0

/-- The magnitude of a finite value as a quotient: its significand times a
power of two. -/
def magnitude (v : Single) : Nat × Nat :=
  let bits := v.bits.toNat
  let exponent := bits / 0x800000 % 0x100
  let fraction := bits % 0x800000
  let significand := if exponent = 0 then fraction else 0x800000 + fraction
  let power := if exponent = 0 then 1 else exponent
  if 150 ≤ power then (significand <<< (power - 150), 1)
    else (significand, 1 <<< (150 - power))

/-- The value with `places` decimals, at least one. -/
def fixed (v : Single) (places : Nat) : String :=
  if v.isNaN then "NaN"
  else
    let sign := if v.isNegative then "-" else ""
    if v.isFinite then
      let (num, den) := v.magnitude
      sign ++ fixedQuotient num den places
    else sign ++ "inf"

end Single

end FireNet
