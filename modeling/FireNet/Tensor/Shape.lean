/-
Shapes of packed image tensors: height, width, channels. There is no
batch and no row padding, so element `(y, x, c)` lives at offset
`(y * width + x) * channels + c`.
-/
import FireNet.Numeric.Size

set_option autoImplicit false

namespace FireNet

/-- The extents of a tensor. -/
structure Shape where
  height : Nat
  width : Nat
  channels : Nat
  deriving DecidableEq, Inhabited

namespace Shape

/-- The shape of no elements that a fresh tensor has. -/
def empty : Shape := ⟨0, 0, 0⟩

/-- How many elements a tensor of this shape has. -/
def volume (s : Shape) : Nat := s.height * s.width * s.channels

/-- The number of spatial positions; a fault when the word overflows. -/
def positions? (s : Shape) : Option Nat := Size.mul s.height s.width

/-- The number of elements, computed in words; a fault when one overflows. -/
def size? (s : Shape) : Option Nat := do
  let positions ← s.positions?
  Size.mul positions s.channels

/-- The same spatial extent with another channel count. -/
def withChannels (s : Shape) (channels : Nat) : Shape := { s with channels }

/-- The text `HxWxC`. -/
def text (s : Shape) : String := s!"{s.height}x{s.width}x{s.channels}"

instance : ToString Shape := ⟨text⟩

theorem size?_eq_some_iff {s : Shape} {n : Nat} :
    s.size? = some n ↔
      s.height * s.width < Size.limit ∧ s.volume < Size.limit
        ∧ s.volume = n := by
  unfold size? positions? volume
  constructor
  · intro h
    obtain ⟨p, hp, hn⟩ := Option.bind_eq_some_iff.1 h
    obtain ⟨hfits, rfl⟩ := Size.mul_eq_some_iff.1 hp
    exact ⟨hfits, Size.mul_eq_some_iff.1 hn⟩
  · rintro ⟨hp, hn⟩
    exact Option.bind_eq_some_iff.2
      ⟨_, Size.mul_eq_some_iff.2 ⟨hp, rfl⟩, Size.mul_eq_some_iff.2 hn⟩

end Shape

end FireNet
