/-
Reading numbers that somebody typed: sizes as plain digits, single-precision
values in decimal or scientific form, rounded to nearest with ties to even.
-/
import FireNet.Numeric.Fixed
import FireNet.Numeric.Size

set_option autoImplicit false

namespace FireNet

-- ================================================================= sizes

/-- The number that decimal digits spell; there is at least one. -/
def readDigits? (digits : List Char) : Option Nat :=
  if !digits.isEmpty && digits.all Char.isDigit then
    some (digits.foldl (fun n c => n * 10 + (c.toNat - '0'.toNat)) 0)
  else none

/-- The characters after a sign, and whether it is a minus. -/
def splitSign : List Char → Bool × List Char
  | '+' :: rest => (false, rest)
  | '-' :: rest => (true, rest)
  | text => (false, text)

/-- A size in digits; a plus may stand in front. -/
def readSize? (text : String) : Option Nat := do
  let (negative, digits) := splitSign text.toList
  if negative then none else Size.fit (← readDigits? digits)

-- =============================================================== singles

namespace Single

def infinity : Single := ⟨0x7f800000⟩

/-- The nearest value to a positive quotient. Significands have 24 bits,
and the smallest step between values is two to the -149. -/
def ofQuotient (num den : Nat) : Single :=
  let guess : Int := (num.log2 : Int) - den.log2
  let covers (e : Int) : Bool :=
    if 0 ≤ e then den <<< e.toNat ≤ num else den ≤ num <<< (-e).toNat
  let exponent := if covers guess then guess else guess - 1
  let step : Int := if exponent < -126 then -149 else exponent - 23
  let significand :=
    if 0 ≤ step then roundQuotient num (den <<< step.toNat)
    else roundQuotient (num <<< (-step).toNat) den
  let bits := (step + 149).toNat * 0x800000 + significand
  if infinity.bits.toNat ≤ bits then infinity else ⟨bits.toUInt32⟩

/-- The nearest value to `mantissa` times ten to the `exponent`. Outside
of some fifty places it is zero or infinity whatever the digits are. -/
def ofDecimal (mantissa : Nat) (exponent : Int) : Single :=
  let places : Int := (Nat.toDigits 10 mantissa).length + exponent
  if mantissa = 0 || places < -46 then zero
  else if 40 < places then infinity
  else if 0 ≤ exponent then ofQuotient (mantissa * Nat.pow 10 exponent.toNat) 1
  else ofQuotient mantissa (Nat.pow 10 (-exponent).toNat)

/-- A value without a sign: digits with a point somewhere, and perhaps an
exponent. -/
def readUnsigned? (text : List Char) : Option Single := do
  let whole := text.takeWhile Char.isDigit
  let rest := text.dropWhile Char.isDigit
  let (fraction, rest) := match rest with
    | '.' :: rest => (rest.takeWhile Char.isDigit, rest.dropWhile Char.isDigit)
    | rest => ([], rest)
  let mantissa ← readDigits? (whole ++ fraction)
  let exponent : Int ← match rest with
    | [] => some 0
    | c :: rest =>
      if c = 'e' ∨ c = 'E' then do
        let (negative, digits) := splitSign rest
        let n ← readDigits? digits
        some (if negative then -(n : Int) else n)
      else none
  some (ofDecimal mantissa (exponent - fraction.length))

/-- A value as text: a number, an infinity or not-a-number, the words in
letters of either case. -/
def read? (text : String) : Option Single := do
  let (negative, rest) := splitSign text.toList
  let word := String.ofList (rest.map Char.toLower)
  let v ← if word = "inf" ∨ word = "infinity" then some infinity
    else if word = "nan" then some quietNaN
    else readUnsigned? rest
  some (if negative then -v else v)

end Single

end FireNet
