/-
Architectures: how many blocks each stage has, and how many channels flow
between them. Widths are listed from the stem over the stages to the head.
-/
import FireNet.Failure

set_option autoImplicit false

namespace FireNet

/-- The free numbers of a network. -/
structure Architecture where
  /-- Blocks of each stage. -/
  repeats : List Nat
  /-- Channels after the stem, after each stage and after the head. -/
  widths : List Nat
  deriving DecidableEq

namespace Architecture

/-- The architecture of the fire classifier in use. -/
def reference : Architecture := ⟨[4, 8, 4], [24, 48, 96, 192, 64]⟩

def op : String := "architecture"

/-- The widths of the stages alone: without the first and the last. -/
def stageWidths (a : Architecture) : List Nat := a.widths.tail.dropLast

/-- Whether a network of this architecture can be built: the lists fit
together, no stage and no width is zero, and every stage width can be
halved. -/
def validate (a : Architecture) : Outcome Unit := do
  if a.widths.length ≠ a.repeats.length + 2 then
    refuse (Error.config op (.widthCount a.widths.length a.repeats.length))
  if let some stage := a.repeats.findIdx? (· == 0) then
    refuse (Error.config op (.noRepeats (stage + 2)))
  if a.widths.contains 0 then
    refuse (Error.config op .zeroWidth)
  if let some width := a.stageWidths.find? (· % 2 != 0) then
    refuse (Error.config op (.oddStageWidth width))

end Architecture

end FireNet
