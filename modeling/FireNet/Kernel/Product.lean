/-
Inner products of runs inside flat buffers, as each backend rounds them.

The scalar sum starts at negative zero and takes the rounded products from
left to right, so that an empty product is `-0.0` and the order of rounding
is fixed.

The vector sum keeps two registers of eight lanes. Sixteen products at a
time are added to them, eight to the first and eight to the second, each
rounded once together with its sum; a last run of eight goes to the first.
Then the registers and their halves are added up, and the products that
are left, fewer than eight, follow as in the scalar sum.
-/
import FireNet.Engine.Backend
import FireNet.Numeric.Single

set_option autoImplicit false

namespace FireNet.Kernel

variable (a b : Array Single)

-- =============================================================== scalar

/-- `acc + a[i] * b[j] + a[i + 1] * b[j + 1] + …`, `n` terms from the left.
A cell past the end counts as zero; `dotRun?` never gets there. -/
def dotFrom : (i j n : Nat) → (acc : Single) → Single
  | _, _, 0, acc => acc
  | i, j, n + 1, acc =>
    dotFrom (i + 1) (j + 1) n
      (acc + a.getD i Single.zero * b.getD j Single.zero)

-- =============================================================== vector

/-- Eight values that are computed on side by side. -/
abbrev Register := Vector Single 8

namespace Register

/-- The register with the products of eight cells of `a` from `i` and of `b`
from `j` added, lane by lane. -/
def fuse (i j : Nat) (r : Register) : Register :=
  .ofFn fun k =>
    Single.fused (a.getD (i + k) Single.zero) (b.getD (j + k) Single.zero) r[k]

/-- Two registers after `n` rounds of sixteen products from `i` and `j`. -/
def rounds : (i j n : Nat) → (r s : Register) → Register × Register
  | _, _, 0, r, s => (r, s)
  | i, j, n + 1, r, s =>
    rounds (i + 16) (j + 16) n (r.fuse a b i j) (s.fuse a b (i + 8) (j + 8))

/-- The sum of the lanes, by halves. -/
def total (r : Register) : Single :=
  ((r[0] + r[4]) + (r[2] + r[6])) + ((r[1] + r[5]) + (r[3] + r[7]))

end Register

/-- The vector sum of `n` products from `i` and `j`. -/
def dotVector (i j n : Nat) : Single :=
  let zeros : Register := .replicate 8 Single.zero
  let (r, s) := Register.rounds a b i j (n / 16) zeros zeros
  let done := n / 16 * 16
  let (r, done) :=
    if done + 8 ≤ n then (r.fuse a b (i + done) (j + done), done + 8)
      else (r, done)
  dotFrom a b (i + done) (j + done) (n - done)
    (Register.total (r.zipWith (· + ·) s))

-- ============================================================= dispatch

/-- The sum of `n` products of cells of `a` from `i` and of `b` from `j`, as
a backend computes it. -/
def product (i j n : Nat) : Backend → Single
  | .scalar => dotFrom a b i j n Single.negZero
  | .vector => dotVector a b i j n

/-- The inner product of `n` cells of `a` from `i` and of `b` from `j`; a
fault when either run leaves its buffer. -/
def dotRun? (backend : Backend) (a : Array Single) (i : Nat) (b : Array Single)
    (j n : Nat) : Option Single :=
  if i + n ≤ a.size ∧ j + n ≤ b.size then some (product a b i j n backend)
    else none

/-- The inner product of two buffers of one length. -/
def dot? (backend : Backend := .scalar) : Option Single :=
  if a.size = b.size then some (product a b 0 0 a.size backend) else none

end FireNet.Kernel
