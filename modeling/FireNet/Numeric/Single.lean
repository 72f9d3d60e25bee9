/-
Single-precision values. A value is its 32-bit pattern, so that copying,
storing and comparing bit for bit are exact for every value, not-a-number
payloads and signed zeros included. Arithmetic is that of IEEE binary32,
each operation rounded once, to nearest with ties to even.
-/

set_option autoImplicit false

namespace FireNet

/-- A binary32 value, held as its bit pattern. Lean's `=` and `==` compare
patterns; the comparison of values is `Single.equal`. -/
structure Single where
  bits : UInt32
  deriving DecidableEq, Inhabited

namespace Single

/-- The value that a machine float denotes. -/
@[inline] def ofFloat (x : Float32) : Single := ⟨x.toBits⟩

/-- The machine float of a value. -/
@[inline] def toFloat (x : Single) : Float32 := Float32.ofBits x.bits

def zero : Single := ⟨0⟩

/-- Negative zero, the neutral element of addition: `-0.0 + x` is `x` for
every `x`, of either sign. -/
def negZero : Single := ⟨0x80000000⟩

def one : Single := ⟨0x3f800000⟩

def half : Single := ⟨0x3f000000⟩

/-- Negative infinity, the start of every maximum. -/
def negInfinity : Single := ⟨0xff800000⟩

/-- The quiet pattern that stands for every not-a-number in a digest. -/
def quietNaN : Single := ⟨0x7fc00000⟩

instance : Zero Single := ⟨zero⟩

@[inline] protected def add (a b : Single) : Single :=
  ofFloat (a.toFloat + b.toFloat)

@[inline] protected def sub (a b : Single) : Single :=
  ofFloat (a.toFloat - b.toFloat)

@[inline] protected def mul (a b : Single) : Single :=
  ofFloat (a.toFloat * b.toFloat)

@[inline] protected def div (a b : Single) : Single :=
  ofFloat (a.toFloat / b.toFloat)

/-- Flips the sign bit, of zeros and infinities too. -/
@[inline] protected def neg (a : Single) : Single := ⟨a.bits ^^^ 0x80000000⟩

/-- `a * b + c`, rounded once. The product is exact among doubles. Its sum
with `c` is rounded there to an odd last bit where it is not exact, so that
the rounding to a single afterwards sees on which side of a tie it lies. -/
def fused (a b c : Single) : Single :=
  let product := a.toFloat.toFloat * b.toFloat.toFloat
  let addend := c.toFloat.toFloat
  let sum := product + addend
  -- what the rounding of `sum` left out, exact where the sum is finite
  let back := sum - product
  let rest := (product - (sum - back)) + (addend - back)
  let odd : Float :=
    if sum.toBits &&& 1 = 1 then sum
    else if 0 < rest then
      .ofBits (if 0 < sum then sum.toBits + 1 else sum.toBits - 1)
    else if rest < 0 then
      .ofBits (if 0 < sum then sum.toBits - 1 else sum.toBits + 1)
    else sum
  ofFloat odd.toFloat32

instance : Add Single := ⟨Single.add⟩
instance : Sub Single := ⟨Single.sub⟩
instance : Mul Single := ⟨Single.mul⟩
instance : Div Single := ⟨Single.div⟩
instance : Neg Single := ⟨Single.neg⟩

/-- Whether the pattern is a not-a-number: exponent full, fraction not zero. -/
def isNaN (a : Single) : Bool := a.bits &&& 0x7fffffff > 0x7f800000

/-- Whether the value is neither infinite nor a not-a-number. -/
def isFinite (a : Single) : Bool := a.bits &&& 0x7f800000 != 0x7f800000

/-- Equality of values: zeros of both signs are equal, a not-a-number is
equal to nothing. -/
@[inline] def equal (a b : Single) : Bool := a.toFloat == b.toFloat

/-- The order of values; false when either is a not-a-number. -/
@[inline] def less (a b : Single) : Bool := a.toFloat < b.toFloat

/-- The larger value; of a value and a not-a-number, the value. -/
def max (a b : Single) : Single :=
  if a.isNaN then b
  else if b.isNaN then a
  else if a.less b then b else a

/-- Bounds a value from both sides; a not-a-number stays. -/
def clamp (x low high : Single) : Single :=
  if x.less low then low
  else if high.less x then high else x

/-- The greatest integer not above the value. -/
@[inline] def floor (a : Single) : Single := ofFloat a.toFloat.floor

/-- The nearest integer; a half goes away from zero. -/
@[inline] def round (a : Single) : Single := ofFloat a.toFloat.round

@[inline] def sqrt (a : Single) : Single := ofFloat a.toFloat.sqrt

/-- The nearest value to a size. -/
@[inline] def ofSize (n : Nat) : Single := ofFloat n.toUInt64.toFloat32

/-- The value of a byte, exact. -/
@[inline] def ofByte (b : UInt8) : Single := ofFloat b.toFloat32

/-- The integer part as a size; what lies outside the word goes to its
nearest end, a not-a-number to 0. -/
@[inline] def toSize (a : Single) : Nat := a.toFloat.toUInt64.toNat

/-- The integer part as a byte; what lies outside goes to the nearest end. -/
@[inline] def toByte (a : Single) : UInt8 := a.toFloat.toUInt8

/-- The four bytes of the pattern, least significant first. -/
def toBytes (a : Single) : List UInt8 :=
  [a.bits.toUInt8, (a.bits >>> 8).toUInt8, (a.bits >>> 16).toUInt8,
    (a.bits >>> 24).toUInt8]

/-- The value whose pattern these four bytes are, least significant first. -/
def ofBytes (b0 b1 b2 b3 : UInt8) : Single :=
  ⟨b0.toUInt32 ||| (b1.toUInt32 <<< 8) ||| (b2.toUInt32 <<< 16) |||
    (b3.toUInt32 <<< 24)⟩

end Single

end FireNet
