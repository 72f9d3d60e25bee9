/-
Places where a window finds nothing. Along an axis a kernel is laid over a
padded image with its first and its last cell no further out than the
padding goes. So it can miss the image in one way only: the image lies in
the gap between two cells that are next to each other (`Axis.Skips`). When
the padding is less than the spread kernel, that is the whole story
(`Places.meets_iff_not_skips`).

A gap is one cell less wide than the dilation. No dilation up to the extent
of the image lets it through; a larger one may.
-/
import FireNet.Proofs.Window.Cells

set_option autoImplicit false

namespace FireNet

namespace Axis

variable {a : Axis} {limit n o k : Nat}

/-- Some cell hits the image. -/
def Meets (a : Axis) (limit o : Nat) : Prop := ∃ k < a.kernel, a.Hits limit o k

/-- The image lies between two neighbouring cells. -/
def Skips (a : Axis) (limit o : Nat) : Prop :=
  ∃ k, k + 1 < a.kernel ∧ o * a.stride + k * a.dilation < a.padding
    ∧ a.padding + limit ≤ o * a.stride + (k + 1) * a.dilation

/-- Cells stand in increasing order. -/
theorem cell_mono {i j : Nat} (h : i ≤ j) :
    o * a.stride + i * a.dilation ≤ o * a.stride + j * a.dilation :=
  Nat.add_le_add_left (Nat.mul_le_mul_right a.dilation h) _

/-- What lies in a gap is not hit. -/
theorem Skips.not_meets (h : a.Skips limit o) : ¬a.Meets limit o := by
  obtain ⟨k, -, hbefore, hbehind⟩ := h
  intro hmeets
  obtain ⟨i, -, hhits⟩ := hmeets
  obtain ⟨hfirst, hpast⟩ := hits_iff.1 hhits
  rcases Nat.lt_or_ge k i with hlt | hle
  · have hle : k + 1 ≤ i := hlt
    have := cell_mono (a := a) (o := o) hle
    omega
  · have := cell_mono (a := a) (o := o) hle
    omega

/-- A gap is one cell less wide than the dilation. -/
theorem Skips.limit_lt (h : a.Skips limit o) : limit < a.dilation := by
  obtain ⟨k, -, hbefore, hbehind⟩ := h
  rw [Nat.succ_mul] at hbehind
  omega

/-- At a place with less padding than kernel, what is not hit lies in a gap:
behind the last cell before the image. -/
theorem Places.meets_iff_not_skips (h : a.Places limit n) (ho : o < n)
    (hpadding : a.padding < a.extent) : a.Meets limit o ↔ ¬a.Skips limit o := by
  refine ⟨fun hmeets hskips => hskips.not_meets hmeets, fun hskips => ?_⟩
  have hroom := h.start_add_extent_le ho
  have hkernel := h.kernel_pos
  rw [extent] at hroom hpadding
  have hcount := @lt_cellsBefore_iff a (o * a.stride) a.padding
  -- the last cell is behind all padding before the image
  have hlt : a.cellsBefore (o * a.stride) a.padding < a.kernel := by
    refine Nat.lt_of_not_le fun hle => ?_
    have := (hcount.1 (Nat.lt_of_lt_of_le (Nat.sub_one_lt_of_lt hkernel) hle)).2
    omega
  have hfirst : a.padding
      ≤ o * a.stride + a.cellsBefore (o * a.stride) a.padding * a.dilation := by
    refine Nat.le_of_not_lt fun hbefore => ?_
    exact Nat.lt_irrefl _ (hcount.2 ⟨hlt, hbefore⟩)
  refine ⟨a.cellsBefore (o * a.stride) a.padding, hlt, hits_iff.2 ⟨hfirst, ?_⟩⟩
  refine Nat.lt_of_not_le fun hbehind => ?_
  cases hbefore : a.cellsBefore (o * a.stride) a.padding with
  | zero =>
      -- then the first cell is behind the image, and there is no such place
      rw [hbefore, Nat.zero_mul] at hbehind
      omega
  | succ k =>
      rw [hbefore] at hlt hbehind
      have hmem : k < a.cellsBefore (o * a.stride) a.padding := by omega
      exact hskips ⟨k, hlt, (hcount.1 hmem).2, hbehind⟩

end Axis

namespace Window

variable {w : Window} {image : Shape} {oy ox : Nat}

/-- Some cell of the kernel lies on the image. -/
def Meets (w : Window) (image : Shape) (oy ox : Nat) : Prop :=
  ∃ row < w.vertical.kernel, ∃ column < w.horizontal.kernel,
    w.Hits image oy ox row column

/-- A window meets the image when both of its axes do. -/
theorem meets_iff :
    w.Meets image oy ox
      ↔ w.vertical.Meets image.height oy
        ∧ w.horizontal.Meets image.width ox := by
  constructor
  · rintro ⟨row, hrow, column, hcolumn, hv, hh⟩
    exact ⟨⟨row, hrow, hv⟩, column, hcolumn, hh⟩
  · rintro ⟨⟨row, hrow, hv⟩, column, hcolumn, hh⟩
    exact ⟨row, hrow, column, hcolumn, hv, hh⟩

/-- It has taps there, and nowhere else. -/
theorem tapsAt_ne_nil_iff :
    w.tapsAt image oy ox ≠ [] ↔ w.Meets image oy ox := by
  constructor
  · intro hne
    obtain ⟨t, ht⟩ := List.exists_mem_of_ne_nil _ hne
    obtain ⟨row, hrow, column, hcolumn, hhits, -⟩ := mem_tapsAt_iff.1 ht
    exact ⟨row, hrow, column, hcolumn, hhits⟩
  · rintro ⟨row, hrow, column, hcolumn, hhits⟩
    exact List.ne_nil_of_mem
      (mem_tapsAt_iff.2 ⟨row, hrow, column, hcolumn, hhits, rfl⟩)

variable {places : Nat × Nat}

/-- A place of a window finds the image unless it lies in a gap on one of the
axes. -/
theorem Places.meets_iff_not_skips
    (h : w.Places image.height image.width places) (hy : oy < places.1)
    (hx : ox < places.2) (hv : w.vertical.padding < w.vertical.extent)
    (hh : w.horizontal.padding < w.horizontal.extent) :
    w.Meets image oy ox
      ↔ ¬w.vertical.Skips image.height oy
        ∧ ¬w.horizontal.Skips image.width ox := by
  rw [meets_iff, h.1.meets_iff_not_skips hy hv, h.2.meets_iff_not_skips hx hh]

end Window

end FireNet
