/-
The cells of a kernel, one by one. When a kernel is laid at output
coordinate `o`, cell `k` of an axis lies at coordinate
`o * stride + k * dilation - padding` of the image: negative before the
image, and past its extent behind it.

The taps of a position are the cells with both coordinates on the image.
To go over the taps is to go over all cells, row after row, and to pass by
those that lie in the padding (`foldl_tapsAt`); this is how the value of a
kernel is told from its taps.
-/
import FireNet.Proofs.Window
import Mathlib.Data.List.Basic

set_option autoImplicit false

namespace FireNet

variable {β : Type}

-- ============================================================== one axis

namespace Axis

variable {a : Axis} {limit o k : Nat}

/-- Where a kernel cell lies, counted from the first pixel of the image. -/
def coordinate (a : Axis) (o k : Nat) : Int :=
  ((o * a.stride + k * a.dilation : Nat) : Int) - a.padding

/-- Cells that are not spread lie side by side. -/
theorem coordinate_of_undilated (h : a.dilation = 1) :
    a.coordinate o k = ((o * a.stride + k : Nat) : Int) - a.padding := by
  rw [coordinate, h, Nat.mul_one]

/-- A kernel cell lies on an image of extent `limit`. -/
def Hits (a : Axis) (limit o k : Nat) : Prop :=
  0 ≤ a.coordinate o k ∧ a.coordinate o k < limit

instance : Decidable (a.Hits limit o k) := inferInstanceAs (Decidable (_ ∧ _))

/-- A cell lies on the image when its coordinate does, said without
subtraction. -/
theorem hits_iff :
    a.Hits limit o k ↔
      a.padding ≤ o * a.stride + k * a.dilation
        ∧ o * a.stride + k * a.dilation < a.padding + limit := by
  unfold Hits coordinate
  omega

theorem toNat_coordinate :
    (a.coordinate o k).toNat = o * a.stride + k * a.dilation - a.padding :=
  Int.toNat_sub _ _

/-- The coordinate under a kernel cell on an image of extent `limit`, each
step computed in words: the outer `none` is a fault, the inner one a cell in
the padding. -/
def coordinate? (a : Axis) (limit o k : Nat) : Option (Option Nat) := do
  let start ← Size.mul o a.stride
  let spread ← Size.mul k a.dilation
  let place ← Size.add start spread
  some (if a.padding ≤ place ∧ place - a.padding < limit then
    some (place - a.padding) else none)

/-- At a place no step leaves the word, and what comes out is the coordinate
of the cell if that lies on the image. -/
theorem Places.coordinate?_eq {n : Nat} (h : a.Places limit n) (ho : o < n)
    (hk : k < a.kernel) :
    a.coordinate? limit o k
      = some (if a.Hits limit o k then some (a.coordinate o k).toNat
        else none) := by
  have hroom := h.start_add_extent_le ho
  have hlt := h.padded_lt
  have hspread : k * a.dilation ≤ (a.kernel - 1) * a.dilation :=
    Nat.mul_le_mul_right _ (Nat.le_sub_one_of_lt hk)
  rw [extent] at hroom
  have hhits : (a.padding ≤ o * a.stride + k * a.dilation
      ∧ o * a.stride + k * a.dilation - a.padding < limit)
        ↔ a.Hits limit o k := by
    rw [hits_iff]
    omega
  simp only [coordinate?, Size.mul_eq_some_iff.2
    ⟨show o * a.stride < Size.limit by omega, rfl⟩,
    Size.mul_eq_some_iff.2 ⟨show k * a.dilation < Size.limit by omega, rfl⟩,
    Size.add_eq_some_iff.2
      ⟨show o * a.stride + k * a.dilation < Size.limit by omega, rfl⟩,
    Option.bind_eq_bind, Option.bind_some, hhits, toNat_coordinate]

/-- The numbers of a range between two bounds are a range of their own. -/
theorem filter_range {first past n : Nat} (hpast : past ≤ n) :
    (List.range n).filter (fun k => decide (first ≤ k ∧ k < past))
      = List.range' first (past - first) := by
  rcases Nat.le_total past first with hle | hle
  · rw [Nat.sub_eq_zero_of_le hle, List.range'_zero, List.filter_eq_nil_iff]
    intro k _ hk
    have := of_decide_eq_true hk
    omega
  · obtain ⟨m, rfl⟩ := Nat.exists_eq_add_of_le hle
    obtain ⟨l, rfl⟩ := Nat.exists_eq_add_of_le hpast
    -- the range falls into what lies before, between and behind
    have hbefore : (List.range' 0 first).filter
        (fun k => decide (first ≤ k ∧ k < first + m)) = [] := by
      rw [List.filter_eq_nil_iff]
      intro k hk hin
      have := List.mem_range'_1.1 hk
      have := of_decide_eq_true hin
      omega
    have hbetween : (List.range' first m).filter
        (fun k => decide (first ≤ k ∧ k < first + m))
          = List.range' first m := by
      rw [List.filter_eq_self]
      intro k hk
      exact decide_eq_true (List.mem_range'_1.1 hk)
    have hbehind : (List.range' (first + m) l).filter
        (fun k => decide (first ≤ k ∧ k < first + m)) = [] := by
      rw [List.filter_eq_nil_iff]
      intro k hk hin
      have := List.mem_range'_1.1 hk
      have := of_decide_eq_true hin
      omega
    have hsplit : List.range (first + m + l)
        = List.range' 0 first
          ++ (List.range' first m ++ List.range' (first + m) l) := by
      rw [List.range'_append_1, List.range_eq_range',
        Nat.add_assoc, ← List.range'_append_1, Nat.zero_add]
    rw [hsplit, List.filter_append, List.filter_append, hbefore, hbetween,
      hbehind, List.nil_append, List.append_nil, Nat.add_sub_cancel_left]

/-- The taps of an axis are its cells that hit the image, in order. -/
theorem foldl_taps (step : β → Nat × Nat → β) (start : β) :
    (a.taps limit (o * a.stride)).foldl step start
      = (List.range a.kernel).foldl
          (fun acc k => if a.Hits limit o k then
            step acc (k, (a.coordinate o k).toNat) else acc)
          start := by
  have hcells : (List.range a.kernel).filter (fun k =>
    decide (a.Hits limit o k))
      = List.range' (a.cellsBefore (o * a.stride) a.padding)
          (a.cellsBefore (o * a.stride) (a.padding + limit)
            - a.cellsBefore (o * a.stride) a.padding) := by
    have hle : a.cellsBefore (o * a.stride) (a.padding + limit) ≤ a.kernel := by
      refine Nat.le_of_not_lt fun hlt => ?_
      exact Nat.lt_irrefl _ (lt_cellsBefore_iff.1 hlt).1
    rw [← filter_range hle]
    refine List.filter_congr fun k hk => ?_
    have hkernel := List.mem_range.1 hk
    have hfirst := @lt_cellsBefore_iff a (o * a.stride) a.padding k
    have hpast := @lt_cellsBefore_iff a (o * a.stride) (a.padding + limit) k
    rw [decide_eq_decide, hits_iff]
    omega
  rw [List.foldl_ite_left, hcells, taps, List.foldl_map]
  simp only [toNat_coordinate]

/-- A tap of an axis is a cell that hits the image. -/
theorem mem_taps_iff_hits {i : Nat} :
    (k, i) ∈ a.taps limit (o * a.stride) ↔
      k < a.kernel ∧ a.Hits limit o k ∧ i = (a.coordinate o k).toNat := by
  rw [mem_taps_iff, hits_iff, toNat_coordinate]
  omega

end Axis

-- =============================================================== windows

namespace Window

variable {w : Window} {image : Shape} {oy ox row column : Nat}

/-- A cell of the kernel lies on the image. -/
def Hits (w : Window) (image : Shape) (oy ox row column : Nat) : Prop :=
  w.vertical.Hits image.height oy row ∧ w.horizontal.Hits image.width ox column

instance : Decidable (w.Hits image oy ox row column) :=
  inferInstanceAs (Decidable (_ ∧ _))

/-- A cell of the kernel with the pixel under it. -/
def tap (w : Window) (oy ox row column : Nat) : Tap :=
  ⟨row, column, (w.vertical.coordinate oy row).toNat,
    (w.horizontal.coordinate ox column).toNat⟩

/-- Takes a step at each cell of the kernel that lies on the image, row
after row. -/
def foldCells (w : Window) (image : Shape) (oy ox : Nat) (step : β → Tap → β)
    (start : β) : β :=
  (List.range w.vertical.kernel).foldl (fun acc row =>
    (List.range w.horizontal.kernel).foldl (fun acc column =>
      if w.Hits image oy ox row column then step acc (w.tap oy ox row column)
        else acc) acc) start

/-- A fold over the taps is a fold over the cells that lie on the image. -/
theorem foldl_tapsAt (step : β → Tap → β) (start : β) :
    (w.tapsAt image oy ox).foldl step start
      = w.foldCells image oy ox step start := by
  rw [tapsAt, List.foldl_flatMap, Axis.foldl_taps, foldCells]
  congr 1
  funext acc row
  rw [List.foldl_map, Axis.foldl_taps]
  by_cases hrow : w.vertical.Hits image.height oy row
  · simp only [Hits, hrow, if_true, true_and, tap]
  · -- no cell of the row hits the image
    rw [if_neg hrow, List.foldl_ite_left,
      List.filter_eq_nil_iff.2 fun _ _ h => hrow (of_decide_eq_true h).1,
      List.foldl_nil]

/-- Steps that agree at the taps of a position go over its cells alike. -/
theorem foldCells_congr {step step' : β → Tap → β} {start : β}
    (h : ∀ t ∈ w.tapsAt image oy ox, ∀ acc, step acc t = step' acc t) :
    w.foldCells image oy ox step start
      = w.foldCells image oy ox step' start := by
  rw [← foldl_tapsAt, ← foldl_tapsAt]
  exact List.foldl_ext _ _ _ fun acc t ht => h t ht acc

/-- The taps are those cells. -/
theorem mem_tapsAt_iff {t : Tap} :
    t ∈ w.tapsAt image oy ox ↔
      ∃ row < w.vertical.kernel, ∃ column < w.horizontal.kernel,
        w.Hits image oy ox row column ∧ t = w.tap oy ox row column := by
  simp only [tapsAt, List.mem_flatMap, List.mem_map, Prod.exists,
    Axis.mem_taps_iff_hits]
  constructor
  · rintro ⟨row, _, ⟨hrow, hv, rfl⟩, column, _, ⟨hcolumn, hh, rfl⟩, rfl⟩
    exact ⟨row, hrow, column, hcolumn, ⟨hv, hh⟩, rfl⟩
  · rintro ⟨row, hrow, column, hcolumn, ⟨hv, hh⟩, rfl⟩
    exact ⟨row, _, ⟨hrow, hv, rfl⟩, column, _, ⟨hcolumn, hh, rfl⟩, rfl⟩

end Window

end FireNet
