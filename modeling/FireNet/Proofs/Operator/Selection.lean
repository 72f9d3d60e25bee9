/-
What max pooling selects. Where a window finds the image, the value of a
channel is one of those it finds and none of them is above it, as long as
all are numbers; padding takes no part. Where it finds nothing, the value is
negative infinity, which no input held. Of any values, numbers or not, it is
one fold in one order (`Primitive.maxPool_folds`).

The set-up means to rule out windows that find nothing. It compares the
padding with the spread kernel, and with that a window can miss the image
only when the image lies between two of its cells (`Axis.Skips`). The check
does not see those gaps: it accepts a dilation larger than the image.
-/
import FireNet.Proofs.Numeric.Order
import FireNet.Proofs.Operator.Replay
import FireNet.Proofs.Kernel.Elements
import FireNet.Proofs.Window.Gaps

set_option autoImplicit false

namespace FireNet

-- ============================================================= selection

namespace Window

/-- The value of a channel under a cell of the kernel. -/
def under (w : Window) (x : Tensor Single) (oy ox row column channel : Nat) :
    Single :=
  x.value (w.tap oy ox row column).y (w.tap oy ox row column).x channel

/-- `P` holds of every value of a channel that the window finds at a place. -/
def AllFound (w : Window) (x : Tensor Single) (oy ox channel : Nat)
    (P : Single → Prop) : Prop :=
  ∀ row < w.vertical.kernel, ∀ column < w.horizontal.kernel,
    w.Hits x.shape oy ox row column → P (w.under x oy ox row column channel)

/-- What is selected at a place for a channel. -/
structure Selects (w : Window) (x : Tensor Single) (oy ox channel : Nat)
    (v : Single) : Prop where
  /-- Without a value there is negative infinity. -/
  missed : ¬w.Meets x.shape oy ox → v = Single.negInfinity
  /-- Of numbers it is one of those found. -/
  found : w.Meets x.shape oy ox →
    w.AllFound x oy ox channel (fun u => u.isNaN = false) →
    ∃ row < w.vertical.kernel, ∃ column < w.horizontal.kernel,
      w.Hits x.shape oy ox row column ∧ v = w.under x oy ox row column channel
  /-- None of the numbers found is above it. -/
  largest : w.AllFound x oy ox channel (fun u => u.isNaN = false) →
    w.AllFound x oy ox channel fun u => u.AtMost v
  /-- Of finite values it is finite. -/
  finite : w.Meets x.shape oy ox →
    w.AllFound x oy ox channel (fun u => u.isFinite = true) →
    v.isFinite = true

variable {w : Window} {x : Tensor Single} {oy ox channel : Nat}

/-- The values of a channel that the window finds at a place, in order. -/
def foundAt (w : Window) (x : Tensor Single) (oy ox channel : Nat) :
    List Single :=
  (w.tapsAt x.shape oy ox).map fun t => x.value t.y t.x channel

/-- What is found are the values under the cells that lie on the image. -/
theorem mem_foundAt_iff {v : Single} :
    v ∈ w.foundAt x oy ox channel ↔
      ∃ row < w.vertical.kernel, ∃ column < w.horizontal.kernel,
        w.Hits x.shape oy ox row column
          ∧ v = w.under x oy ox row column channel := by
  simp only [foundAt, List.mem_map, mem_tapsAt_iff]
  constructor
  · rintro ⟨_, ⟨row, hrow, column, hcolumn, hhits, rfl⟩, rfl⟩
    exact ⟨row, hrow, column, hcolumn, hhits, rfl⟩
  · rintro ⟨row, hrow, column, hcolumn, hhits, rfl⟩
    exact ⟨_, ⟨row, hrow, column, hcolumn, hhits, rfl⟩, rfl⟩

/-- A condition on every cell is one on all that is found. -/
theorem allFound_iff {P : Single → Prop} :
    w.AllFound x oy ox channel P ↔ ∀ v ∈ w.foundAt x oy ox channel, P v := by
  simp only [mem_foundAt_iff]
  constructor
  · rintro h _ ⟨row, hrow, column, hcolumn, hhits, rfl⟩
    exact h row hrow column hcolumn hhits
  · intro h row hrow column hcolumn hhits
    exact h _ ⟨row, hrow, column, hcolumn, hhits, rfl⟩

/-- Something is found where the window meets the image. -/
theorem foundAt_ne_nil_iff :
    w.foundAt x oy ox channel ≠ [] ↔ w.Meets x.shape oy ox := by
  rw [← tapsAt_ne_nil_iff, foundAt, ne_eq, ne_eq, List.map_eq_nil_iff]

/-- The maximum from negative infinity on selects. -/
theorem selects_maxAt :
    w.Selects x oy ox channel (Kernel.maxAt w x oy ox channel) := by
  have hmax : Kernel.maxAt w x oy ox channel
      = (w.foundAt x oy ox channel).foldl Single.max Single.negInfinity := by
    rw [Kernel.maxAt, ← foldl_tapsAt, foundAt, List.foldl_map]
  have hmem (hmeets : w.Meets x.shape oy ox)
      (h : ∀ v ∈ w.foundAt x oy ox channel, v.isNaN = false) :
      Kernel.maxAt w x oy ox channel ∈ w.foundAt x oy ox channel := by
    rw [hmax]
    exact Single.foldl_max_negInfinity_mem h (foundAt_ne_nil_iff.2 hmeets)
  refine ⟨fun hmissed => ?_, fun hmeets h => ?_, fun h => ?_,
    fun hmeets h => ?_⟩
  · have hnil : w.foundAt x oy ox channel = [] :=
      Decidable.byContradiction fun hne => hmissed (foundAt_ne_nil_iff.1 hne)
    rw [hmax, hnil]
    rfl
  · exact mem_foundAt_iff.1 (hmem hmeets (allFound_iff.1 h))
  · obtain ⟨-, hall⟩ :=
      Single.atMost_foldl_max (a := Single.negInfinity) rfl (allFound_iff.1 h)
    rw [allFound_iff, hmax]
    exact fun v hv => hall v (List.mem_cons_of_mem _ hv)
  · rw [allFound_iff] at h
    exact h _ (hmem hmeets fun v hv => Single.isNaN_of_isFinite (h v hv))

/-- Every pixel under a cell that lies on the image is there, with all its
channels, at an offset that a word holds. -/
def ReadsInRange (w : Window) (x : Tensor Single) : Prop :=
  x.data.size < Size.limit ∧
    ∀ oy ox, ∀ row < w.vertical.kernel, ∀ column < w.horizontal.kernel,
      w.Hits x.shape oy ox row column →
        let t := w.tap oy ox row column
        (t.y * x.shape.width + t.x) * x.shape.channels + x.shape.channels
          ≤ x.data.size

/-- A sound input has every pixel that a cell lies on. -/
theorem readsInRange (hx : x.Sound) : w.ReadsInRange x := by
  refine ⟨by rw [hx.size_eq]; exact (Shape.size?_eq_some_iff.1
    hx.size?_eq).2.1, ?_⟩
  intro oy ox row hrow column hcolumn hhits
  obtain ⟨-, hy, hx'⟩ :=
    bounds_of_mem_tapsAt
      (mem_tapsAt_iff.2 ⟨row, hrow, column, hcolumn, hhits, rfl⟩)
  rw [hx.size_eq]
  exact Shape.pixel_le hy hx'

/-- Nothing found is a choice of negative infinity. -/
theorem Selects.of_missed (h : ¬w.Meets x.shape oy ox) :
    w.Selects x oy ox channel Single.negInfinity := by
  refine ⟨fun _ => rfl, fun hmeets => absurd hmeets h, fun _ => ?_,
    fun hmeets => absurd hmeets h⟩
  intro row hrow column hcolumn hhits
  exact absurd ⟨row, hrow, column, hcolumn, hhits⟩ h

end Window

/-- Over an empty buffer max pooling comes out only where it finds nothing. -/
theorem Kernel.maxPool?_missing_element {w : Window} {image outShape : Shape}
    {out r : Array Single} {oy ox channel : Nat}
    (hplaces : w.Places image.height image.width
      (outShape.height, outShape.width))
    (hchannels : outShape.channels = image.channels)
    (h : maxPool? w #[] image outShape out = some r) (hy : oy < outShape.height)
    (hx : ox < outShape.width) (hchannel : channel < outShape.channels) :
    ¬w.Meets image oy ox
      ∧ (⟨outShape, r⟩ : Tensor Single).value? oy ox channel
        = some Single.negInfinity := by
  have hp := rowMajor_lt hy hx
  rw [hchannels] at hchannel
  have hpos : 0 < image.channels := by omega
  have htaps : w.tapsAt image oy ox = [] := by
    refine Decidable.byContradiction fun hne => ?_
    have htouch : w.Touches image outShape :=
      ⟨_, hp, by rw [Window.tapsAt_place hx]; exact hne⟩
    have hfault : maxPool? w #[] image outShape out = none :=
      hplaces.paint?_zero hpos htouch out
    rw [hfault] at h
    cases h
  refine ⟨fun hmeets => Window.tapsAt_ne_nil_iff.2 hmeets htaps, ?_⟩
  have hcell : r[(oy * outShape.width + ox) * image.channels + channel]?
      = (w.pixelTaps? image outShape 0 (oy * outShape.width + ox)).bind
          fun taps => maxValue? #[] image taps channel :=
            paint?_cell h hp hchannel
  rw [Tensor.value?, hchannels, hcell, hplaces.pixelTaps?_zero hpos hp,
    Window.tapsAt_place hx, if_pos htaps]
  rfl

-- ================================================================ passes

namespace Primitive

variable {p : Primitive} {a a' : Arena} {x old : Tensor Single}

/-- A pass that comes out has computed its output from the content of the
input, or in place from nothing. -/
theorem eq_put_of_forward (hx : a.tensor? p.input = some x) (hxs : x.Sound)
    (hin : x.shape = p.inShape) (hold : a.tensor? p.output = some old)
    (holds : old.Sound) (hout : old.shape = p.outShape)
    (hrun : p.forward a = .ok () a') :
    ∃ (seen r : Array Single), (seen = x.data ∨ p.input = p.output ∧ seen = #[])
      ∧ p.action.compute? p.handle.backend seen p.inShape p.outShape old.data
        = some r
      ∧ a' = a.put p.output ⟨old.shape, r⟩ := by
  obtain ⟨seen, hdata, hseen⟩ : ∃ seen,
    (a.put p.output Tensor.empty).data? p.input = some seen
      ∧ (seen = x.data ∨ p.input = p.output ∧ seen = #[]) := by
    by_cases hsame : p.input = p.output
    · refine ⟨#[], ?_, Or.inr ⟨hsame, rfl⟩⟩
      rw [hsame]
      exact Arena.data?_of_tensor?
        (Arena.tensor?_put_self (Arena.tensor?_eq_some_lt hold))
    · exact ⟨x.data, (Arena.data?_put_of_ne hsame).trans
        (Arena.data?_of_tensor? hx), Or.inl rfl⟩
  rw [forward_eq_withOutput hx hxs hin hold holds hout] at hrun
  cases hcompute : p.action.compute? p.handle.backend seen p.inShape p.outShape
    old.data with
  | none =>
      rw [Arena.withOutput_eq_fault _ hold (by
        rw [hdata, Option.bind_eq_bind, Option.bind_some, hcompute]
        rfl)] at hrun
      cases hrun
  | some r =>
      rw [Arena.withOutput_eq_ok _ () r hold (by
        rw [hdata, Option.bind_eq_bind, Option.bind_some, hcompute]
        rfl)] at hrun
      cases hrun
      exact ⟨seen, r, hseen, hcompute, rfl⟩

variable {b b' : Bench} {name : String} {handle : Handle} {w : Window}
  {input output : TensorId}

/-- What a bound max pooling selects, on any contents of its tensors. It
misses the image only in a gap between two cells, never with a dilation that
is at most the extent of the image. It comes out unless it is bound in place,
and whenever it comes out each output value is the one that its window
selects. -/
theorem maxPool_selects (hsound : b.arena.Sound)
    (hsetup : setup name (.maxPool w) input output handle b = .ok p b')
    (ha : b'.arena.Alike a) :
    (∀ oy < p.outShape.height, ∀ ox < p.outShape.width, w.Meets p.inShape oy ox
        ↔ ¬w.vertical.Skips p.inShape.height oy
          ∧ ¬w.horizontal.Skips p.inShape.width ox)
      ∧ (w.vertical.dilation ≤ p.inShape.height →
        w.horizontal.dilation ≤ p.inShape.width →
        ∀ oy < p.outShape.height, ∀ ox < p.outShape.width,
          w.Meets p.inShape oy ox)
      ∧ (input ≠ output → ∃ a', p.forward a = .ok () a')
      ∧ ∀ a', p.forward a = .ok () a' →
        ∃ x y : Tensor Single, a.tensor? input = some x ∧ x.shape = p.inShape
          ∧ a' = a.put output y ∧ y.shape = p.outShape ∧ y.Sound
          ∧ ∀ oy < p.outShape.height, ∀ ox < p.outShape.width,
            ∀ channel < p.outShape.channels,
            ∃ v, y.value? oy ox channel = some v
              ∧ w.Selects x oy ox channel v := by
  rw [arena_of_setup hsetup] at ha
  obtain ⟨x, old, rfl, hcheck, ⟨hx, hxs⟩, hold, holds⟩ :=
    setup_finds hsetup (hsound.covers.of_alike ha)
  obtain ⟨⟨hpos, hchannels⟩, hplaces, hv, hh⟩ :=
    Action.check_maxPool_eq_ok_iff.1 hcheck
  have hmeets (oy : Nat) (hy : oy < old.shape.height) (ox : Nat)
    (hx : ox < old.shape.width) :
      w.Meets x.shape oy ox
        ↔ ¬w.vertical.Skips x.shape.height oy
          ∧ ¬w.horizontal.Skips x.shape.width ox :=
    hplaces.meets_iff_not_skips hy hx hv hh
  refine ⟨hmeets, fun hdv hdh oy hy ox hx' => ?_, fun hne => ?_,
    fun a' hrun => ?_⟩
  · refine (hmeets oy hy ox hx').2 ⟨fun hskips => ?_, fun hskips => ?_⟩
    · exact Nat.not_lt_of_ge hdv hskips.limit_lt
    · exact Nat.not_lt_of_ge hdh hskips.limit_lt
  · obtain ⟨y, -, -, -, hrun⟩ :=
      forward_eq_ok (p :=
        ⟨name, .maxPool w, input, output, x.shape, old.shape, handle⟩)
        hcheck hx hxs rfl hold holds rfl hne
    exact ⟨_, hrun⟩
  · obtain ⟨seen, r, hseen, hcompute, rfl⟩ :=
      eq_put_of_forward hx hxs rfl hold holds rfl hrun
    have hpool : Kernel.maxPool? w seen x.shape old.shape old.data = some r :=
      hcompute
    have hsize : r.size = old.data.size := (Kernel.paint?_cells hpool).1
    refine ⟨x, ⟨old.shape, r⟩, hx, rfl, rfl, rfl,
      holds.of_size r (hsize.trans holds.size_eq),
      fun oy hy ox hx' channel hchannel => ?_⟩
    rcases hseen with rfl | ⟨-, rfl⟩
    · exact ⟨_, Kernel.maxPool?_element hxs.size_eq hplaces hchannels hpool hy
        hx' hchannel, Window.selects_maxAt⟩
    · obtain ⟨hmissed, hvalue⟩ :=
        Kernel.maxPool?_missing_element hplaces hchannels hpool hy hx' hchannel
      exact ⟨_, hvalue, Window.Selects.of_missed hmissed⟩

/-- A window that is laid over the padding at the corner, and still finds a
pixel. -/
theorem maxPool_selects_padded :
    ∃ (p : Primitive) (b' : Bench) (a' : Arena) (x y : Tensor Single)
      (v : Single),
      setup "pool" (.maxPool (Window.square 3 2 1)) ⟨0⟩ ⟨1⟩ ⟨.scalar⟩
          (Bench.ofArena (Arena.empty.grow [⟨3, 3, 2⟩, ⟨2, 2, 2⟩])) = .ok p b'
        ∧ b'.arena.tensor? ⟨0⟩ = some x ∧ p.forward b'.arena = .ok () a'
        ∧ a' = b'.arena.put ⟨1⟩ y ∧ y.value? 1 1 0 = some v
        ∧ (Window.square 3 2 1).Selects x 1 1 0 v
        ∧ (Window.square 3 2 1).Meets ⟨3, 3, 2⟩ 1 1 := by
  have hsound : (Arena.empty.grow [⟨3, 3, 2⟩, ⟨2, 2, 2⟩]).Sound :=
    Arena.empty_sound.grows ⟨_, by decide, rfl⟩
  obtain ⟨p, b', hsetup, hin, hout⟩ : ∃ (p : Primitive) (b' : Bench),
      setup "pool" (.maxPool (Window.square 3 2 1)) ⟨0⟩ ⟨1⟩ ⟨.scalar⟩
        (Bench.ofArena (Arena.empty.grow [⟨3, 3, 2⟩, ⟨2, 2, 2⟩])) = .ok p b'
        ∧ p.inShape = ⟨3, 3, 2⟩ ∧ p.outShape = ⟨2, 2, 2⟩ :=
          ⟨_, _, rfl, rfl, rfl⟩
  obtain ⟨-, hmeets, hruns, hresults⟩ :=
    maxPool_selects (a := b'.arena) hsound hsetup fun _ => rfl
  rw [hin, hout] at hmeets
  obtain ⟨a', hrun⟩ := hruns (by decide)
  obtain ⟨x, y, hx, -, hput, -, -, hvalues⟩ := hresults a' hrun
  rw [hout] at hvalues
  obtain ⟨v, hv, hselects⟩ := hvalues 1 (by decide) 1 (by decide) 0 (by decide)
  exact ⟨p, b', a', x, y, v, hsetup, hx, hrun, hput, hv, hselects,
    hmeets (by decide) (by decide) 1 (by decide) 1 (by decide)⟩

/-- The value that a bound max pooling leaves, on any contents of its tensors
and for every window that its set-up accepts: the maximum over the cells that
lie on the image, row after row, from negative infinity on. The coordinates
of all cells are worked out within words, and every pixel that is read lies
in the input. -/
theorem maxPool_folds (hsound : b.arena.Sound)
    (hsetup : setup name (.maxPool w) input output handle b = .ok p b')
    (hne : input ≠ output) (ha : b'.arena.Alike a) :
    (∀ oy < p.outShape.height, ∀ row < w.vertical.kernel,
        w.vertical.coordinate? p.inShape.height oy row
          = some (if w.vertical.Hits p.inShape.height oy row
              then some (w.vertical.coordinate oy row).toNat else none))
      ∧ (∀ ox < p.outShape.width, ∀ column < w.horizontal.kernel,
        w.horizontal.coordinate? p.inShape.width ox column
          = some (if w.horizontal.Hits p.inShape.width ox column
              then some (w.horizontal.coordinate ox column).toNat else none))
      ∧ ∃ x y : Tensor Single, a.tensor? input = some x ∧ x.shape = p.inShape
        ∧ p.forward a = .ok () (a.put output y) ∧ y.shape = p.outShape ∧ y.Sound
        ∧ w.ReadsInRange x
        ∧ ∀ oy < p.outShape.height, ∀ ox < p.outShape.width,
          ∀ channel < p.outShape.channels,
          y.value? oy ox channel = some (Kernel.maxAt w x oy ox channel) := by
  obtain ⟨x, y, hx, hxs, hin, hcheck, hover, hshape, hys, hrun⟩ :=
    pass_of_setup hsound hsetup hne ha
  obtain ⟨⟨-, hchannels⟩, hplaces, -, -⟩ :=
    Action.check_maxPool_eq_ok_iff.1 hcheck
  obtain ⟨data, hcompute, hy⟩ := Option.bind_eq_some_iff.1 hover
  cases hy
  refine ⟨fun _ hy _ hrow => hplaces.1.coordinate?_eq hy hrow,
    fun _ hx _ hcolumn => hplaces.2.coordinate?_eq hx hcolumn, x, _, hx, hin,
    hrun, hshape, hys,
    Window.readsInRange hxs, fun oy hy ox hx' channel hchannel => ?_⟩
  rw [← hin] at hplaces hchannels
  exact Kernel.maxPool?_element hxs.size_eq hplaces hchannels hcompute hy
    hx' hchannel

/-- A kernel of two rows that lie four apart, with steps of two. -/
theorem maxPool_folds_dilated :
    ∃ (w : Window) (p : Primitive) (b' : Bench) (x y : Tensor Single),
      w = ⟨⟨2, 2, 1, 4⟩, ⟨2, 2, 0, 1⟩⟩
        ∧ setup "pool" (.maxPool w) ⟨0⟩ ⟨1⟩ ⟨.scalar⟩
          (Bench.ofArena (Arena.empty.grow [⟨5, 4, 2⟩, ⟨2, 2, 2⟩])) = .ok p b'
        ∧ b'.arena.tensor? ⟨0⟩ = some x
        ∧ p.forward b'.arena = .ok () (b'.arena.put ⟨1⟩ y)
        ∧ y.value? 1 1 1 = some (Kernel.maxAt w x 1 1 1)
        ∧ w.Hits ⟨5, 4, 2⟩ 1 1 0 0
        ∧ ¬w.Hits ⟨5, 4, 2⟩ 1 1 1 0 := by
  have hsound : (Arena.empty.grow [⟨5, 4, 2⟩, ⟨2, 2, 2⟩]).Sound :=
    Arena.empty_sound.grows ⟨_, by decide, rfl⟩
  obtain ⟨p, b', hsetup, hout⟩ : ∃ (p : Primitive) (b' : Bench),
      setup "pool" (.maxPool ⟨⟨2, 2, 1, 4⟩, ⟨2, 2, 0, 1⟩⟩) ⟨0⟩ ⟨1⟩ ⟨.scalar⟩
        (Bench.ofArena (Arena.empty.grow [⟨5, 4, 2⟩, ⟨2, 2, 2⟩])) = .ok p b'
        ∧ p.outShape = ⟨2, 2, 2⟩ := ⟨_, _, rfl, rfl⟩
  obtain ⟨-, -, x, y, hx, -, hrun, -, -, -, hvalues⟩ :=
    maxPool_folds hsound hsetup (by decide) fun _ => rfl
  rw [hout] at hvalues
  exact ⟨_, p, b', x, y, rfl, hsetup, hx, hrun,
    hvalues 1 (by decide) 1 (by decide) 1 (by decide), by decide, by decide⟩

/-- Two cells three apart, laid around an image of one pixel, are accepted.
The one input value is finite; the one output value is negative infinity. -/
theorem maxPool_misses_between_cells :
    ∃ (w : Window) (b b' : Bench) (p : Primitive) (a' : Arena)
      (x y : Tensor Single),
      b.arena.Sound ∧ setup "pool" (.maxPool w) ⟨0⟩ ⟨1⟩ ⟨.scalar⟩ b = .ok p b'
        ∧ b'.arena.tensor? ⟨0⟩ = some x ∧ (∀ v ∈ x.data, v.isFinite = true)
        ∧ p.forward b'.arena = .ok () a' ∧ a'.tensor? ⟨1⟩ = some y
        ∧ y.value? 0 0 0 = some Single.negInfinity
        ∧ (∀ row < w.vertical.kernel, ∀ column < w.horizontal.kernel,
          ¬w.Hits p.inShape 0 0 row column) := by
  have hgrown : (Arena.empty.grow [⟨1, 1, 1⟩, ⟨1, 1, 1⟩]).Sound :=
    Arena.empty_sound.grows ⟨_, by decide, rfl⟩
  have halike : (Arena.empty.grow [⟨1, 1, 1⟩, ⟨1, 1, 1⟩]).Alike
      ((Arena.empty.grow [⟨1, 1, 1⟩, ⟨1, 1, 1⟩]).put ⟨0⟩
        ⟨⟨1, 1, 1⟩, #[Single.one]⟩) :=
    Arena.alike_put (t := Tensor.blank ⟨1, 1, 1⟩) rfl rfl rfl
  exact ⟨⟨⟨1, 1, 0, 1⟩, ⟨2, 2, 2, 3⟩⟩, Bench.ofArena _, _, _, _, _, _,
    hgrown.of_alike halike, rfl, rfl, by decide, rfl, rfl, rfl, by decide⟩

end Primitive

end FireNet
