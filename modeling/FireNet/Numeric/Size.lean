/-
Sizes: counts of elements, extents and offsets, each held in one machine
word. A sum or product that leaves the word is a fault, which `none`
stands for; nothing ever wraps.
-/

set_option autoImplicit false

namespace FireNet

namespace Size

/-- How many values a machine word of 64 bits has: every size is below it. -/
def limit : Nat := 18446744073709551616

/-- The most bytes that one buffer may hold. -/
def maxBytes : Nat := 9223372036854775807

/-- A number as a size, if the word holds it. -/
def fit (n : Nat) : Option Nat :=
  if n < limit then some n else none

/-- The sum of two sizes, if the word holds it. -/
def add (a b : Nat) : Option Nat := fit (a + b)

/-- The product of two sizes, if the word holds it. -/
def mul (a b : Nat) : Option Nat := fit (a * b)

theorem fit_eq_some_iff {n m : Nat} :
    fit n = some m ↔ n < limit ∧ n = m := by
  by_cases h : n < limit <;> simp [fit, h]

theorem add_eq_some_iff {a b m : Nat} :
    add a b = some m ↔ a + b < limit ∧ a + b = m :=
  fit_eq_some_iff

theorem mul_eq_some_iff {a b m : Nat} :
    mul a b = some m ↔ a * b < limit ∧ a * b = m :=
  fit_eq_some_iff

end Size

end FireNet
