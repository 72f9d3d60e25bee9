/-
Window geometry: how a kernel of a convolution or a pooling is laid over
an image. The two axes are independent, so each has its own record, and a
window is a pair of them.

`Axis.output?` is the usual floor formula; `Axis.taps?` lists, for one
output coordinate, the kernel cells that fall on the image. All sizes are
computed in machine words: the outer `none` is a fault.
-/
import FireNet.Tensor.Shape

set_option autoImplicit false

namespace FireNet

/-- A window along one axis. -/
structure Axis where
  kernel : Nat
  stride : Nat
  padding : Nat
  dilation : Nat
  deriving DecidableEq, Inhabited

/-- A window over an image. -/
structure Window where
  vertical : Axis
  horizontal : Axis
  deriving DecidableEq, Inhabited

-- ============================================================== extents

namespace Axis

/-- The extent of the kernel with its cells spread by the dilation. -/
def extent (a : Axis) : Nat := (a.kernel - 1) * a.dilation + 1

/-- `extent` in words. -/
def extent? (a : Axis) : Option Nat := do
  let spread ← Size.mul (a.kernel - 1) a.dilation
  Size.add spread 1

/-- The input extent with padding on both sides, in words. -/
def padded? (a : Axis) (input : Nat) : Option Nat := do
  let both ← Size.mul 2 a.padding
  Size.add input both

/-- How many window places fit into an input, given the spread extent of
the kernel: `none` inside when an extent or a step is zero or the window
is larger than the padded input. -/
def places? (a : Axis) (input extent : Nat) : Option (Option Nat) :=
  if a.kernel = 0 ∨ a.stride = 0 ∨ a.dilation = 0 ∨ input = 0 then
    some none
  else do
    let padded ← a.padded? input
    if padded < extent then
      some none
    else
      let places ← Size.add ((padded - extent) / a.stride) 1
      some (some places)

end Axis

namespace Window

/-- A square kernel, the same on both axes, not dilated. -/
def square (kernel stride padding : Nat) : Window :=
  let axis : Axis := ⟨kernel, stride, padding, 1⟩
  ⟨axis, axis⟩

/-- The dilated kernel extents along both axes, in words. -/
def extents? (w : Window) : Option (Nat × Nat) := do
  let rows ← w.vertical.extent?
  let columns ← w.horizontal.extent?
  some (rows, columns)

/-- The spatial size of the output over a `height` by `width` input; `none`
inside when the window does not fit on one of the axes. -/
def output? (w : Window) (height width : Nat) :
    Option (Option (Nat × Nat)) := do
  let (rows, columns) ← w.extents?
  match ← w.vertical.places? height rows with
  | none => some none
  | some outHeight =>
    match ← w.horizontal.places? width columns with
    | none => some none
    | some outWidth => some (some (outHeight, outWidth))

end Window

-- ================================================================= taps

namespace Axis

/-- How many kernel cells lie before coordinate `bound` when the first lies
at `start`. -/
def cellsBefore (a : Axis) (start bound : Nat) : Nat :=
  if a.dilation = 0 then if start < bound then a.kernel else 0
  else min a.kernel ((bound - start + (a.dilation - 1)) / a.dilation)

/-- Cells stand in increasing order, so those before a coordinate come
first. -/
theorem lt_cellsBefore_iff {a : Axis} {start bound k : Nat} :
    k < a.cellsBefore start bound
      ↔ k < a.kernel ∧ start + k * a.dilation < bound := by
  unfold cellsBefore
  split
  case isTrue h =>
    split <;> simp_all
  case isFalse h =>
    rw [Nat.lt_min, Nat.lt_div_iff_mul_lt (Nat.pos_of_ne_zero h)]
    omega

/-- The kernel cells that fall on an input of extent `limit` when the first
lies at `start` of the padded input, each with its input coordinate, in
increasing order. -/
def taps (a : Axis) (limit start : Nat) : List (Nat × Nat) :=
  let first := a.cellsBefore start a.padding
  let past := a.cellsBefore start (a.padding + limit)
  (List.range' first (past - first)).map fun k =>
    (k, start + k * a.dilation - a.padding)

/-- The taps are exactly the cells over the input. -/
theorem mem_taps_iff {a : Axis} {limit start k i : Nat} :
    (k, i) ∈ a.taps limit start ↔
      k < a.kernel ∧ start + k * a.dilation = a.padding + i ∧ i < limit := by
  have hFirst := @lt_cellsBefore_iff a start a.padding k
  have hPast := @lt_cellsBefore_iff a start (a.padding + limit) k
  simp only [taps, List.mem_map, List.mem_range'_1, Prod.mk.injEq]
  constructor
  · rintro ⟨j, hj, rfl, rfl⟩
    omega
  · intro h
    exact ⟨k, by omega, rfl, by omega⟩

/-- The taps for output coordinate `o`. All coordinates are computed in
words, and that of the last cell is the largest. -/
def taps? (a : Axis) (limit o : Nat) : Option (List (Nat × Nat)) :=
  if a.kernel = 0 then some []
  else do
    let start ← Size.mul o a.stride
    let spread ← Size.mul (a.kernel - 1) a.dilation
    let _ ← Size.add start spread
    some (a.taps limit start)

end Axis

/-- A kernel cell over an image pixel. -/
structure Tap where
  /-- The row of the kernel cell. -/
  row : Nat
  /-- The column of the kernel cell. -/
  column : Nat
  /-- The image row under it. -/
  y : Nat
  /-- The image column under it. -/
  x : Nat
  deriving DecidableEq, Inhabited

namespace Window

/-- The kernel cells that fall on the image for output position
`(oy, ox)`, row after row. When no row of the kernel meets the image the
columns are not computed. -/
def taps? (w : Window) (image : Shape) (oy ox : Nat) : Option (List Tap) := do
  match ← w.vertical.taps? image.height oy with
  | [] => some []
  | rows =>
    let columns ← w.horizontal.taps? image.width ox
    some (rows.flatMap fun (row, y) =>
      columns.map fun (column, x) => ⟨row, column, y, x⟩)

end Window

end FireNet
