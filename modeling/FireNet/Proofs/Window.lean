/-
Places and taps. An axis has `places` places over an input when the spread
kernel fits into the padded input that many times (`Axis.Places`); this is
what the size formula computes whenever it computes anything. At each of
those places all coordinates stay inside the word, so the taps come out
(`taps?_eq_some`), and every tap lies on the kernel and on the image.
-/
import FireNet.Window.Basic

set_option autoImplicit false

namespace FireNet

-- =============================================================== places

namespace Axis

/-- The spread kernel fits into the padded input at `places` places. -/
structure Places (a : Axis) (input places : Nat) : Prop where
  kernel_pos : 0 < a.kernel
  stride_pos : 0 < a.stride
  dilation_pos : 0 < a.dilation
  input_pos : 0 < input
  padded_lt : input + 2 * a.padding < Size.limit
  extent_le : a.extent ≤ input + 2 * a.padding
  places_eq : places = (input + 2 * a.padding - a.extent) / a.stride + 1

/-- An extent is given when a word holds it. -/
theorem extent?_eq_some_iff {a : Axis} {n : Nat} :
    a.extent? = some n ↔ a.extent < Size.limit ∧ n = a.extent := by
  simp only [extent?, extent, Option.bind_eq_bind, Option.bind_eq_some_iff,
    Size.mul_eq_some_iff, Size.add_eq_some_iff]
  constructor
  · intro hall
    obtain ⟨_, ⟨-, rfl⟩, hlt, rfl⟩ := hall
    exact ⟨hlt, rfl⟩
  · intro hall
    obtain ⟨hlt, rfl⟩ := hall
    exact ⟨_, ⟨by omega, rfl⟩, hlt, rfl⟩

theorem padded?_eq_some_iff {a : Axis} {input n : Nat} :
    a.padded? input = some n ↔
      input + 2 * a.padding < Size.limit ∧ n = input + 2 * a.padding := by
  simp only [padded?, Option.bind_eq_bind, Option.bind_eq_some_iff,
    Size.mul_eq_some_iff, Size.add_eq_some_iff]
  constructor
  · intro hall
    obtain ⟨_, ⟨-, rfl⟩, hlt, rfl⟩ := hall
    exact ⟨hlt, rfl⟩
  · intro hall
    obtain ⟨hlt, rfl⟩ := hall
    exact ⟨_, ⟨by omega, rfl⟩, hlt, rfl⟩

theorem extent_pos (a : Axis) : 0 < a.extent := Nat.succ_pos _

/-- The size formula gives a number exactly when there are that many
places. -/
theorem places?_eq_some_some_iff {a : Axis} {input n : Nat} :
    a.places? input a.extent = some (some n) ↔ a.Places input n := by
  unfold places?
  constructor
  · intro h
    split at h
    case isTrue => simp at h
    case isFalse hpos =>
      rw [not_or, not_or, not_or] at hpos
      obtain ⟨padded, hpadded, h⟩ := Option.bind_eq_some_iff.1 h
      obtain ⟨hlt, rfl⟩ := padded?_eq_some_iff.1 hpadded
      split at h
      case isTrue => simp at h
      case isFalse hle =>
        obtain ⟨places, hplaces, heq⟩ := Option.bind_eq_some_iff.1 h
        obtain ⟨-, rfl⟩ := Size.add_eq_some_iff.1 hplaces
        simp only [Option.some.injEq] at heq
        exact ⟨by omega, by omega, by omega, by omega, hlt, by omega, heq.symm⟩
  · intro h
    have hk := h.kernel_pos
    have hs := h.stride_pos
    have hd := h.dilation_pos
    have hi := h.input_pos
    have hle := h.extent_le
    have hquot : (input + 2 * a.padding - a.extent) / a.stride
        ≤ input + 2 * a.padding - a.extent := Nat.div_le_self _ _
    have hlt := h.padded_lt
    have hpos := a.extent_pos
    rw [if_neg (by omega), Option.bind_eq_bind,
      padded?_eq_some_iff.2 ⟨hlt, rfl⟩, Option.bind_some, if_neg (by omega)]
    rw [Size.add_eq_some_iff.2 ⟨by omega, rfl⟩, h.places_eq]
    rfl

/-- A place leaves room for the whole spread kernel. -/
theorem Places.start_add_extent_le {a : Axis} {input n o : Nat}
    (h : a.Places input n) (ho : o < n) :
    o * a.stride + a.extent ≤ input + 2 * a.padding := by
  have hle := h.extent_le
  have hquot : o ≤ (input + 2 * a.padding - a.extent) / a.stride := by
    have := h.places_eq
    omega
  have := (Nat.le_div_iff_mul_le h.stride_pos).1 hquot
  omega

/-- At a place every coordinate stays inside the word. -/
theorem Places.taps?_eq_some {a : Axis} {input n o : Nat}
    (h : a.Places input n) (ho : o < n) :
    a.taps? input o = some (a.taps input (o * a.stride)) := by
  have hroom := h.start_add_extent_le ho
  have hlt := h.padded_lt
  have hk := h.kernel_pos
  rw [extent] at hroom
  rw [taps?, if_neg (by omega), Option.bind_eq_bind,
    Size.mul_eq_some_iff.2 ⟨by omega, rfl⟩, Option.bind_some,
    Size.mul_eq_some_iff.2 ⟨by omega, rfl⟩, Option.bind_some,
    Size.add_eq_some_iff.2 ⟨by omega, rfl⟩, Option.bind_some]

end Axis

-- ============================================================== windows

namespace Window

/-- The window has `places` over an input, axis by axis. -/
def Places (w : Window) (height width : Nat) (places : Nat × Nat) : Prop :=
  w.vertical.Places height places.1 ∧ w.horizontal.Places width places.2

/-- Both extents of a window are given when words hold them. -/
theorem extents?_eq_some_iff {w : Window} {n : Nat × Nat} :
    w.extents? = some n ↔
      w.vertical.extent < Size.limit ∧ w.horizontal.extent < Size.limit
        ∧ n = (w.vertical.extent, w.horizontal.extent) := by
  simp only [extents?, Option.bind_eq_bind, Option.bind_eq_some_iff,
    Axis.extent?_eq_some_iff, Option.some.injEq]
  constructor
  · intro hall
    obtain ⟨_, ⟨hv, rfl⟩, _, ⟨hh, rfl⟩, rfl⟩ := hall
    exact ⟨hv, hh, rfl⟩
  · intro hall
    obtain ⟨hv, hh, rfl⟩ := hall
    exact ⟨_, ⟨hv, rfl⟩, _, ⟨hh, rfl⟩, rfl⟩

/-- The output size is the number of places, when there are any. -/
theorem output?_eq_some_some_iff {w : Window} {height width : Nat}
    {places : Nat × Nat} :
    w.output? height width = some (some places)
      ↔ w.Places height width places := by
  unfold output?
  constructor
  · intro h
    obtain ⟨extents, hextents, h⟩ := Option.bind_eq_some_iff.1 h
    obtain ⟨hv, hh, rfl⟩ := extents?_eq_some_iff.1 hextents
    obtain ⟨rows, hrows, h⟩ := Option.bind_eq_some_iff.1 h
    cases rows with
    | none => simp at h
    | some rows =>
        obtain ⟨columns, hcolumns, h⟩ := Option.bind_eq_some_iff.1 h
        cases columns with
        | none => simp at h
        | some columns =>
            simp only [Option.some.injEq] at h
            subst h
            exact ⟨Axis.places?_eq_some_some_iff.1 hrows,
              Axis.places?_eq_some_some_iff.1 hcolumns⟩
  · intro hall
    obtain ⟨hv, hh⟩ := hall
    have hvlt := Nat.lt_of_le_of_lt hv.extent_le hv.padded_lt
    have hhlt := Nat.lt_of_le_of_lt hh.extent_le hh.padded_lt
    rw [Option.bind_eq_bind, extents?_eq_some_iff.2 ⟨hvlt, hhlt, rfl⟩]
    simp only [Option.bind_eq_bind, Option.bind_some,
      Axis.places?_eq_some_some_iff.2 hv, Axis.places?_eq_some_some_iff.2 hh]

/-- The taps of a position, row after row. -/
def tapsAt (w : Window) (image : Shape) (oy ox : Nat) : List Tap :=
  (w.vertical.taps image.height (oy * w.vertical.stride)).flatMap
    fun (row, y) =>
    (w.horizontal.taps image.width (ox * w.horizontal.stride)).map
      fun (column, x) =>
      ⟨row, column, y, x⟩

/-- At a place the taps come out. -/
theorem Places.taps?_eq_some {w : Window} {image : Shape} {places : Nat × Nat}
    {oy ox : Nat} (h : w.Places image.height image.width places)
    (hy : oy < places.1) (hx : ox < places.2) :
    w.taps? image oy ox = some (w.tapsAt image oy ox) := by
  rw [taps?, Option.bind_eq_bind, h.1.taps?_eq_some hy,
    Option.bind_some, tapsAt]
  split
  case h_1 hrows => rw [hrows, List.flatMap_nil]
  case h_2 => rw [h.2.taps?_eq_some hx, Option.bind_some]

/-- A tap lies on the kernel and on the image. -/
theorem bounds_of_mem_tapsAt {w : Window} {image : Shape} {oy ox : Nat}
    {t : Tap} (ht : t ∈ w.tapsAt image oy ox) :
    (t.row < w.vertical.kernel ∧ t.column < w.horizontal.kernel)
      ∧ t.y < image.height ∧ t.x < image.width := by
  obtain ⟨⟨row, y⟩, hrow, ht⟩ := List.mem_flatMap.1 ht
  obtain ⟨⟨column, x⟩, hcolumn, rfl⟩ := List.mem_map.1 ht
  obtain ⟨hr, -, hy⟩ := Axis.mem_taps_iff.1 hrow
  obtain ⟨hc, -, hx⟩ := Axis.mem_taps_iff.1 hcolumn
  exact ⟨⟨hr, hc⟩, hy, hx⟩

/-- Positions counted along the rows of the places are places. -/
theorem Places.taps?_position {w : Window} {image : Shape}
    {rows columns p : Nat}
    (h : w.Places image.height image.width (rows, columns))
    (hp : p < rows * columns) :
    w.taps? image (p / columns) (p % columns)
      = some (w.tapsAt image (p / columns) (p % columns)) := by
  have hpos : 0 < columns := Nat.pos_of_lt_mul_left hp
  exact h.taps?_eq_some ((Nat.div_lt_iff_lt_mul hpos).2 hp) (Nat.mod_lt p hpos)

end Window

-- ============================================================== offsets

/-- Row-major offsets stay inside the table. -/
theorem rowMajor_lt {y x rows columns : Nat} (hy : y < rows)
    (hx : x < columns) :
    y * columns + x < rows * columns := by
  have hle : (y + 1) * columns ≤ rows * columns :=
    Nat.mul_le_mul_right columns hy
  rw [Nat.succ_mul] at hle
  omega

/-- Row-major offsets, row after row, are all offsets in order. -/
theorem range_rowMajor (rows columns : Nat) :
    List.range (rows * columns)
      = (List.range rows).flatMap fun y => (List.range columns).map fun x => y
        * columns + x := by
  induction rows with
  | zero => rw [Nat.zero_mul]; rfl
  | succ rows ih =>
      rw [Nat.succ_mul, List.range_add, ih, List.range_succ,
        List.flatMap_append, List.flatMap_singleton]

/-- A run of `n` cells that starts at a multiple of `n` stays inside. -/
theorem run_le {p count n : Nat} (hp : p < count) : p * n + n ≤ count * n := by
  rw [← Nat.succ_mul]
  exact Nat.mul_le_mul_right n hp

/-- The channels of a pixel stay inside the tensor. -/
theorem Shape.pixel_le {s : Shape} {y x : Nat} (hy : y < s.height)
    (hx : x < s.width) :
    (y * s.width + x) * s.channels + s.channels ≤ s.volume :=
  run_le (rowMajor_lt hy hx)

/-- The pixels under the taps of a position stay inside the image. -/
theorem Window.all_pixel_le {w : Window} {image : Shape} {oy ox size : Nat}
    (hsize : size = image.volume) :
    ((w.tapsAt image oy ox).all fun t =>
      (t.y * image.width + t.x) * image.channels + image.channels ≤ size)
        = true := by
  rw [List.all_eq_true]
  intro t ht
  obtain ⟨-, hy, hx⟩ := bounds_of_mem_tapsAt ht
  have hle := Shape.pixel_le hy hx
  exact decide_eq_true (by omega)

/-- Taps that are checked against the length of the image pass the check. -/
theorem Window.Places.pixelTaps?_position {w : Window} {image : Shape}
    {rows columns p size : Nat}
    (h : w.Places image.height image.width (rows, columns))
    (hsize : size = image.volume) (hp : p < rows * columns) :
    (do
      let taps ← w.taps? image (p / columns) (p % columns)
      if taps.all fun t =>
          (t.y * image.width + t.x) * image.channels + image.channels
            ≤ size then
        some taps
      else none) = some (w.tapsAt image (p / columns) (p % columns)) := by
  rw [h.taps?_position hp, Option.bind_eq_bind, Option.bind_some,
    if_pos (all_pixel_le hsize)]

end FireNet
