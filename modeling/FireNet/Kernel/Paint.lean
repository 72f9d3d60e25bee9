/-
Writing an image pixel after pixel. Every kernel that fills an image does
it through `paint?`: position `p` takes the `channels` cells from
`p * channels` on, and the value of a cell is a function of the position
and the channel alone, never of what the buffer held. What the channels
of one position share is prepared once.
-/
import FireNet.Failure

set_option autoImplicit false

namespace FireNet.Kernel

variable {α τ : Type}

/-- Writes the `n` channels from `channel` on of the pixel at `base`; a
fault when a value faults or a cell lies outside. -/
def paintChannels? (value : Nat → Option α) (base : Nat) :
    (n channel : Nat) → Array α → Option (Array α)
  | 0, _, out => some out
  | n + 1, channel, out =>
    match value channel with
    | none => none
    | some v =>
      if base + channel < out.size then
        paintChannels? value base n (channel + 1)
          (out.setIfInBounds (base + channel) v)
      else none

/-- Writes the `n` positions from `p` on. -/
def paintFrom? (channels : Nat) (prepare : Nat → Option τ)
    (value : τ → Nat → Option α) :
    (n p : Nat) → Array α → Option (Array α)
  | 0, _, out => some out
  | n + 1, p, out =>
    if p * channels + channels ≤ out.size then
      match prepare p with
      | none => none
      | some shared =>
        match paintChannels? (value shared) (p * channels) channels 0 out with
        | none => none
        | some out => paintFrom? channels prepare value n (p + 1) out
    else none

/-- Writes all positions, in order. -/
def paint? (positions channels : Nat) (prepare : Nat → Option τ)
    (value : τ → Nat → Option α) (out : Array α) : Option (Array α) :=
  paintFrom? channels prepare value positions 0 out

end FireNet.Kernel
