/-
The generator of reproducible values: xoshiro256++, its four words seeded
by SplitMix64, and uniform single-precision draws from it. What is filled
with random values asks a `Sampler` for them, and takes this one by default.
-/
import FireNet.Numeric.Single

set_option autoImplicit false

namespace FireNet

structure Generator where
  s0 : UInt64
  s1 : UInt64
  s2 : UInt64
  s3 : UInt64
  deriving DecidableEq

namespace Generator

/-- The increment of the seeding sequence. -/
def gamma : UInt64 := 0x9e3779b97f4a7c15

/-- The output of the seeding sequence for one of its states. -/
def mix (x : UInt64) : UInt64 :=
  let z := (x ^^^ (x >>> 30)) * 0xbf58476d1ce4e5b9
  let z := (z ^^^ (z >>> 27)) * 0x94d049bb133111eb
  z ^^^ (z >>> 31)

def ofSeed (seed : UInt64) : Generator :=
  ⟨mix (seed + gamma), mix (seed + 2 * gamma), mix (seed + 3 * gamma),
    mix (seed + 4 * gamma)⟩

/-- Rotation to the left by `n` bits, `0 < n < 64`. -/
def rotate (x n : UInt64) : UInt64 := (x <<< n) ||| (x >>> (64 - n))

/-- The next word, and the generator after it. -/
def next (g : Generator) : UInt64 × Generator :=
  let word := rotate (g.s0 + g.s3) 23 + g.s0
  let t := g.s1 <<< 17
  let s2 := g.s2 ^^^ g.s0
  let s3 := g.s3 ^^^ g.s1
  let s1 := g.s1 ^^^ s2
  let s0 := g.s0 ^^^ s3
  (word, ⟨s0, s1, s2 ^^^ t, rotate s3 45⟩)

/-- A value in `[1, 2)`: the upper 23 bits of a word as the fraction. -/
def fraction (word : UInt64) : Single :=
  ⟨((word >>> 32).toUInt32 >>> 9) ||| 0x3f800000⟩

/-- A draw between two bounds. -/
def uniform (low high : Single) (g : Generator) : Single × Generator :=
  let (word, g) := g.next
  ((fraction word - Single.one) * (high - low) + low, g)

end Generator

-- ============================================================== samplers

/-- A source of random values: a state for each seed, and draws between two
bounds that lead from state to state. -/
structure Sampler (γ : Type) where
  start : UInt64 → γ
  draw : (low high : Single) → γ → Single × γ

namespace Sampler

variable {γ : Type}

/-- `n` draws between two bounds, appended to `values` in order. -/
def draws (s : Sampler γ) (low high : Single) :
    (n : Nat) → γ → (values : Array Single) →
    Array Single × γ
  | 0, g, values => (values, g)
  | n + 1, g, values =>
    let (v, g) := s.draw low high g
    s.draws low high n g (values.push v)

/-- Uniform draws from the generator. -/
def uniform : Sampler Generator := ⟨Generator.ofSeed, Generator.uniform⟩

end Sampler

end FireNet
