/-
How many places a window has. Laid at output coordinate `o`, a spread
kernel starts at `o * stride` of the padded input, and has room there or
sticks out behind (`Axis.HasRoom`). Each step leaves less room than the one
before, so the coordinates with room are those below some number. The size
formula divides and rounds down to get it; that this is the number, also
where the last step ends before the edge, is `Places.hasRoom_iff`.

No word overflows as long as the padded input and the spread kernel are
sizes themselves (`Axis.Sized`). Then the formula answers for every window:
there is no place exactly when an extent or a step is zero, or not even the
first coordinate has room (`Axis.Barred`).
-/
import FireNet.Proofs.Window

set_option autoImplicit false

namespace FireNet

-- ============================================================== one axis

namespace Axis

variable {a : Axis} {input n o k : Nat}

/-- The padded input and the spread kernel are sizes. -/
structure Sized (a : Axis) (input : Nat) : Prop where
  padded_lt : input + 2 * a.padding < Size.limit
  extent_lt : a.extent < Size.limit

/-- Nothing to lay, no way to step, nothing to lay it on, or too little of
it. -/
def Barred (a : Axis) (input : Nat) : Prop :=
  a.kernel = 0 ∨ a.stride = 0 ∨ a.dilation = 0 ∨ input = 0
    ∨ input + 2 * a.padding < a.extent

instance : Decidable (a.Barred input) := inferInstanceAs (Decidable (_ ∨ _))

/-- The spread kernel, laid at output coordinate `o`, ends inside the padded
input. -/
def HasRoom (a : Axis) (input o : Nat) : Prop :=
  o * a.stride + a.extent ≤ input + 2 * a.padding

/-- A kernel has room where all its cells have. -/
theorem hasRoom_iff_forall_cell (hkernel : 0 < a.kernel) :
    a.HasRoom input o ↔
      ∀ k < a.kernel,
        o * a.stride + k * a.dilation < input + 2 * a.padding := by
  unfold HasRoom extent
  constructor
  · intro hroom k hk
    have hle := Nat.mul_le_mul_right a.dilation (Nat.le_sub_one_of_lt hk)
    omega
  · intro hcells
    -- the last cell is the one that reaches furthest
    have hlast := hcells (a.kernel - 1) (Nat.sub_one_lt_of_lt hkernel)
    omega

/-- The places are the coordinates with room. -/
theorem Places.hasRoom_iff (h : a.Places input n) :
    a.HasRoom input o ↔ o < n := by
  constructor
  · intro hroom
    unfold HasRoom at hroom
    have hquot : o ≤ (input + 2 * a.padding - a.extent) / a.stride :=
      (Nat.le_div_iff_mul_le h.stride_pos).2 (by omega)
    rw [h.places_eq]
    exact Nat.lt_succ_of_le hquot
  · exact h.start_add_extent_le

/-- What a number of places promises: there is room at each of them and
nowhere else, so no cell of the kernel leaves the padded input. -/
structure Counts (a : Axis) (input places : Nat) : Prop where
  hasRoom_iff : ∀ o, a.HasRoom input o ↔ o < places
  cell_lt : ∀ o < places, ∀ k < a.kernel,
    o * a.stride + k * a.dilation < input + 2 * a.padding

/-- Places are what the quotient counts. -/
theorem Places.counts (h : a.Places input n) : a.Counts input n where
  hasRoom_iff _ := h.hasRoom_iff
  cell_lt _ ho := (hasRoom_iff_forall_cell h.kernel_pos).1 (h.hasRoom_iff.2 ho)

/-- Sizes that bar a window leave it no output. -/
theorem Sized.places?_of_barred (h : a.Sized input) (hbarred : a.Barred input) :
    a.places? input a.extent = some none := by
  unfold places?
  split
  case isTrue => rfl
  case isFalse hpos =>
    have hshort : input + 2 * a.padding < a.extent := by
      unfold Barred at hbarred
      omega
    rw [Option.bind_eq_bind, padded?_eq_some_iff.2 ⟨h.padded_lt, rfl⟩,
      Option.bind_some, if_pos hshort]

/-- All others leave it one. -/
theorem Sized.exists_places (h : a.Sized input) (hopen : ¬a.Barred input) :
    ∃ places, a.Places input places := by
  unfold Barred at hopen
  exact ⟨_, by omega, by omega, by omega, by omega, h.padded_lt, by omega, rfl⟩

end Axis

-- =============================================================== windows

namespace Window

variable {w : Window} {height width : Nat}

/-- The padded image and the spread kernel have sizes on both axes. -/
def Sized (w : Window) (height width : Nat) : Prop :=
  w.vertical.Sized height ∧ w.horizontal.Sized width

/-- One axis is barred. -/
def Barred (w : Window) (height width : Nat) : Prop :=
  w.vertical.Barred height ∨ w.horizontal.Barred width

instance : Decidable (w.Barred height width) :=
  inferInstanceAs (Decidable (_ ∨ _))

theorem Sized.output?_of_barred (h : w.Sized height width)
    (hbarred : w.Barred height width) :
    w.output? height width = some none := by
  unfold output?
  rw [Option.bind_eq_bind, extents?_eq_some_iff.2
    ⟨h.1.extent_lt, h.2.extent_lt, rfl⟩]
  by_cases hv : w.vertical.Barred height
  · simp only [Option.bind_eq_bind, Option.bind_some, h.1.places?_of_barred hv]
  · -- the rows have places, so it is the columns that have none
    obtain ⟨rows, hrows⟩ := h.1.exists_places hv
    have hh := hbarred.resolve_left hv
    simp only [Option.bind_eq_bind, Option.bind_some,
      Axis.places?_eq_some_some_iff.2 hrows, h.2.places?_of_barred hh]

/-- And all others have an output. -/
theorem Sized.exists_output? (h : w.Sized height width)
    (hopen : ¬w.Barred height width) :
    ∃ places, w.output? height width = some (some places)
      ∧ w.Places height width places := by
  obtain ⟨hv, hh⟩ := not_or.1 hopen
  obtain ⟨rows, hrows⟩ := h.1.exists_places hv
  obtain ⟨columns, hcolumns⟩ := h.2.exists_places hh
  have hplaces : w.Places height width (rows, columns) := ⟨hrows, hcolumns⟩
  exact ⟨(rows, columns), output?_eq_some_some_iff.2 hplaces, hplaces⟩

/-- Over an image with sizes the output size is always computed. There is
none exactly when an axis is barred; otherwise it counts, on each axis, the
coordinates where the kernel has room, and no cell of a kernel laid there
leaves the padded image. -/
theorem output?_counts (h : w.Sized height width) :
    (w.output? height width = some none ↔ w.Barred height width)
      ∧ (¬w.Barred height width → ∃ rows columns,
        w.output? height width = some (some (rows, columns))
          ∧ w.vertical.Counts height rows
          ∧ w.horizontal.Counts width columns) := by
  refine ⟨⟨fun hnone => ?_, h.output?_of_barred⟩, fun hopen => ?_⟩
  · refine Decidable.byContradiction fun hopen => ?_
    obtain ⟨places, hsome, -⟩ := h.exists_output? hopen
    rw [hnone] at hsome
    cases hsome
  · obtain ⟨⟨rows, columns⟩, hsome, hv, hh⟩ := h.exists_output? hopen
    exact ⟨rows, columns, hsome, hv.counts, hh.counts⟩

/-- The last step ends one row before the edge, and the columns just fit. -/
theorem output?_counts_inexact :
    ∃ w : Window, w = ⟨⟨3, 2, 1, 2⟩, ⟨2, 3, 0, 4⟩⟩ ∧ w.Sized 8 5 ∧ ¬w.Barred 8 5
      ∧ w.output? 8 5 = some (some (3, 1))
      ∧ w.vertical.Counts 8 3 ∧ w.horizontal.Counts 5 1 := by
  have hsized : Sized ⟨⟨3, 2, 1, 2⟩, ⟨2, 3, 0, 4⟩⟩ 8 5 :=
    ⟨⟨by decide, by decide⟩, by decide, by decide⟩
  obtain ⟨rows, columns, hsome, hv, hh⟩ := (output?_counts hsized).2 (by decide)
  obtain ⟨rfl, rfl⟩ : 3 = rows ∧ 1 = columns := by
    have hsize : output? ⟨⟨3, 2, 1, 2⟩, ⟨2, 3, 0, 4⟩⟩ 8 5
      = some (some (3, 1)) := rfl
    rw [hsize] at hsome
    cases hsome
    exact ⟨rfl, rfl⟩
  exact ⟨_, rfl, hsized, by decide, hsome, hv, hh⟩

end Window

end FireNet
