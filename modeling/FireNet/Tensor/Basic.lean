/-
Tensors: a shape and the elements, packed. Bytes carry raw frames, single
precision values everything after preprocessing.

Every operation that takes a shape computes its size in machine words and
faults when that overflows or no buffer could be that large. `resize` is
the one operation that changes a tensor before it knows: it announces the
new shape and drops the old elements first.
-/
import FireNet.Failure
import FireNet.Numeric.Single

set_option autoImplicit false

namespace FireNet

/-- A kind of element: its zero, the bytes that one takes, and when two
count as equal. -/
class Element (α : Type) where
  zero : α
  bytes : Nat
  equal : α → α → Bool

instance : Element UInt8 := ⟨0, 1, (· == ·)⟩

instance : Element Single := ⟨Single.zero, 4, Single.equal⟩

/-- Whether two buffers are equal element by element. -/
def equalAll {α : Type} [Element α] (a b : Array α) : Bool :=
  a.size == b.size && (a.zip b).all fun (x, y) => Element.equal x y

/-- A buffer of `n` zeros, if one can be that large. -/
def zeros? (α : Type) [Element α] (n : Nat) : Option (Array α) :=
  if n * Element.bytes α ≤ Size.maxBytes then
    some (Array.replicate n (Element.zero : α)) else none

structure Tensor (α : Type) where
  shape : Shape
  data : Array α
  deriving DecidableEq

namespace Tensor

variable {α : Type}

def empty : Tensor α := ⟨Shape.empty, #[]⟩

instance : Inhabited (Tensor α) := ⟨empty⟩

def zeros? [Element α] (shape : Shape) : Option (Tensor α) := do
  let size ← shape.size?
  let data ← FireNet.zeros? α size
  some ⟨shape, data⟩

/-- Given elements in a shape; `none` inside when their number is not the
shape's. -/
def ofArray? (shape : Shape) (data : Array α) : Option (Option (Tensor α)) := do
  let size ← shape.size?
  some (if data.size = size then some ⟨shape, data⟩ else none)

/-- Equality of shapes and elements. Floats compare as numbers, so a tensor
with a not-a-number differs from itself. -/
def equal [Element α] (a b : Tensor α) : Bool :=
  a.shape == b.shape && equalAll a.data b.data

/-- Takes another shape and fills it with zeros. -/
def resize [Element α] (shape : Shape) : Step (Tensor α) Unit := do
  set (⟨shape, #[]⟩ : Tensor α)
  let size ← Step.ofOption shape.size?
  let data ← Step.ofOption (FireNet.zeros? α size)
  set (⟨shape, data⟩ : Tensor α)

/-- Overwrites one element, by its offset. -/
def write (offset : Nat) (value : α) : Step (Tensor α) Unit := do
  let t ← get
  if offset < t.data.size then
    set { t with data := t.data.setIfInBounds offset value }
  else
    Step.fault

/-- The channels at `(y, x)`. Only the offset is checked, so a column past
the end of a row is read from the rows below. -/
def pixel? (t : Tensor α) (y x : Nat) : Option (Array α) := do
  let row ← Size.mul y t.shape.width
  let place ← Size.add row x
  let first ← Size.mul place t.shape.channels
  let last ← Size.add first t.shape.channels
  if last ≤ t.data.size then some (t.data.extract first last) else none

end Tensor

end FireNet
