/-
The values that kernels leave, element by element. An output element is told
by a formula over the image and the parameters. That of a convolution is
the activation of a sum that starts at the bias and goes over the cells of
the kernel that lie on the image, row after row (`Filter.denseAt`,
`Filter.depthwiseAt`); pooling takes a maximum over the same cells or a
mean over all pixels (`Kernel.maxAt`, `Kernel.meanAt`), and a fully
connected layer one inner product (`Kernel.affineAt`). The arithmetic of
single values is taken as it is, and every sum has one order. That of an
inner product is the backend's.

The formulas read their buffers through `getD`; that they never read past
an end is what makes the kernels come out, and is shown beside them.
-/
import FireNet.Proofs.Kernel.Pooling
import FireNet.Proofs.Kernel.Product
import FireNet.Proofs.Window.Cells
import FireNet.Tensor.Basic

set_option autoImplicit false

namespace FireNet

-- ================================================================ values

namespace Tensor

variable {α : Type}

/-- The element of a tensor at a pixel and a channel. -/
def value? (t : Tensor α) (y x channel : Nat) : Option α :=
  t.data[(y * t.shape.width + x) * t.shape.channels + channel]?

/-- Tensors of one shape are equal element by element. -/
theorem eq_of_value? {a b : Tensor α} (hshape : a.shape = b.shape)
    (ha : a.data.size = a.shape.volume) (hb : b.data.size = b.shape.volume)
    (h : ∀ y < a.shape.height, ∀ x < a.shape.width,
      ∀ channel < a.shape.channels,
        a.value? y x channel = b.value? y x channel) :
    a = b := by
  obtain ⟨s, a⟩ := a
  obtain ⟨s', b⟩ := b
  obtain rfl : s = s' := hshape
  congr 1
  refine Array.ext_getElem? fun i => ?_
  by_cases hi : i < s.volume
  · have hchannels : 0 < s.channels := Nat.pos_of_lt_mul_left hi
    have hpixel : i / s.channels < s.height * s.width :=
      (Nat.div_lt_iff_lt_mul hchannels).2 hi
    have hwidth : 0 < s.width := Nat.pos_of_lt_mul_left hpixel
    have hvalue :=
      h (i / s.channels / s.width) ((Nat.div_lt_iff_lt_mul hwidth).2 hpixel)
        (i / s.channels % s.width) (Nat.mod_lt _ hwidth) (i % s.channels)
        (Nat.mod_lt _ hchannels)
    simpa only [value?, Nat.div_add_mod'] using hvalue
  · rw [Array.getElem?_eq_none (by rw [ha]; exact Nat.le_of_not_lt hi),
      Array.getElem?_eq_none (by rw [hb]; exact Nat.le_of_not_lt hi)]

/-- The element, zero where there is none. -/
def value (t : Tensor Single) (y x channel : Nat) : Single :=
  t.data.getD ((y * t.shape.width + x) * t.shape.channels + channel) Single.zero

/-- A value in range is there. -/
theorem value?_eq_value {t : Tensor Single} {y x channel : Nat}
    (hsize : t.data.size = t.shape.volume) (hy : y < t.shape.height)
    (hx : x < t.shape.width) (hchannel : channel < t.shape.channels) :
    t.value? y x channel = some (t.value y x channel) := by
  have hpixel := Shape.pixel_le hy hx
  have hlt : (y * t.shape.width + x) * t.shape.channels + channel
    < t.data.size := by omega
  rw [value?, value, Array.getElem?_eq_getElem hlt, Array.getD_eq_getD_getElem?,
    Array.getElem?_eq_getElem hlt, Option.getD_some]

end Tensor

/-- A position counted along the rows is its row and column. -/
theorem Window.tapsAt_place {w : Window} {image : Shape} {columns oy ox : Nat}
    (hx : ox < columns) :
    w.tapsAt image ((oy * columns + ox) / columns)
      ((oy * columns + ox) % columns)
      = w.tapsAt image oy ox := by
  rw [Nat.mul_add_mod_of_lt hx, Kernel.mul_add_div_of_lt hx]

/-- A sum whose terms all exist is the sum of its terms. -/
theorem foldlM_eq_some {α β : Type} {f : β → α → Option β} {g : β → α → β}
    {l : List α} {b : β} (h : ∀ a ∈ l, ∀ b, f b a = some (g b a)) :
    l.foldlM f b = some (l.foldl g b) := by
  induction l generalizing b with
  | nil => rfl
  | cons a l ih =>
      rw [List.foldlM_cons, h a List.mem_cons_self b, Option.bind_eq_bind,
        Option.bind_some, List.foldl_cons]
      exact ih fun a' ha' => h a' (List.mem_cons_of_mem a ha')

namespace Filter

-- ============================================================== formulas

variable (f : Filter) (x : Tensor Single)

/-- The bias of an output channel. -/
def biasAt (channel : Nat) : Single :=
  match f.bias with
  | none => Single.zero
  | some bias => bias.getD channel Single.zero

/-- A weight of a dense kernel, in the order output channel, kernel row,
kernel column, input channel. -/
def denseWeight (inputs o row column channel : Nat) : Single :=
  f.weights.getD
    (((o * f.window.vertical.kernel + row) * f.window.horizontal.kernel
      + column)
    * inputs + channel) Single.zero

/-- The value of a dense convolution at a position and an output channel, on
a backend. -/
def denseAt (backend : Backend) (oy ox o : Nat) : Single :=
  f.activation.apply (f.window.foldCells x.shape oy ox (fun acc t =>
    acc + Kernel.innerProduct x.shape.channels (x.value t.y t.x)
      (f.denseWeight x.shape.channels o t.row t.column) backend) (f.biasAt o))

/-- A weight of a per-channel kernel, in the order channel, kernel row,
kernel column. -/
def depthwiseWeight (channel row column : Nat) : Single :=
  f.weights.getD ((channel * f.window.vertical.kernel + row)
    * f.window.horizontal.kernel + column)
    Single.zero

/-- The value of a per-channel convolution at a position and a channel. -/
def depthwiseAt (oy ox channel : Nat) : Single :=
  f.activation.apply (f.window.foldCells x.shape oy ox (fun acc t =>
    acc + x.value t.y t.x channel * f.depthwiseWeight channel t.row t.column)
      (f.biasAt channel))

-- =========================================================== coherence

variable {f : Filter} {x : Tensor Single} {outShape : Shape} {oy ox : Nat}
  {backend : Backend}

/-- A bias that covers the outputs is read as it is. -/
theorem BiasCovers.biasAt?_eq {channels o : Nat} (h : f.BiasCovers channels)
    (ho : o < channels) :
    f.biasAt? o = some (f.biasAt o) := by
  unfold biasAt? biasAt
  cases hb : f.bias with
  | none => rfl
  | some bias =>
      have hlt : o < bias.size := by
        rw [h bias hb]
        exact ho
      simp [Array.getElem?_eq_getElem hlt]

/-- The weights under a cell of a dense kernel lie in the buffer. -/
theorem denseCell_le {outputs inputs o row column : Nat}
    (hweights : f.weights.size = outputs * f.window.vertical.kernel
      * f.window.horizontal.kernel * inputs)
    (ho : o < outputs) (hrow : row < f.window.vertical.kernel)
    (hcolumn : column < f.window.horizontal.kernel) :
    ((o * f.window.vertical.kernel + row) * f.window.horizontal.kernel + column)
      * inputs + inputs
      ≤ f.weights.size := by
  rw [hweights]
  exact run_le (rowMajor_lt (rowMajor_lt ho hrow) hcolumn)

/-- Over its taps a dense sum comes out as the formula. -/
theorem denseValue?_eq {outputs o : Nat} (hsize : x.data.size = x.shape.volume)
    (hweights : f.weights.size = outputs * f.window.vertical.kernel
      * f.window.horizontal.kernel * x.shape.channels)
    (hbias : f.BiasCovers outputs) (ho : o < outputs) :
    f.denseValue? x.data x.shape backend (f.window.tapsAt x.shape oy ox) o
      = some (f.denseAt x backend oy ox o) := by
  have hsum : (f.window.tapsAt x.shape oy ox).foldlM (fun acc t => do
      let cell := (o * f.window.vertical.kernel + t.row)
        * f.window.horizontal.kernel + t.column
      let pixel := (t.y * x.shape.width + t.x) * x.shape.channels
      let term ←
        Kernel.dotRun? backend x.data pixel f.weights (cell * x.shape.channels)
          x.shape.channels
      some (acc + term)) (f.biasAt o)
      = some ((f.window.tapsAt x.shape oy ox).foldl (fun acc t =>
          acc + Kernel.innerProduct x.shape.channels (x.value t.y t.x)
            (f.denseWeight x.shape.channels o t.row t.column) backend)
              (f.biasAt o)) := by
    refine foldlM_eq_some fun t ht acc => ?_
    obtain ⟨⟨hrow, hcolumn⟩, hy, hx⟩ := Window.bounds_of_mem_tapsAt ht
    have hpixel := Shape.pixel_le hy hx
    have hterm := Kernel.dotRun?_eq_some backend (hsize ▸ hpixel)
      (denseCell_le hweights ho hrow hcolumn)
    simp only [hterm, Option.bind_eq_bind, Option.bind_some]
    rfl
  simp only [denseValue?, hbias.biasAt?_eq ho, Option.bind_eq_bind,
    Option.bind_some] at hsum ⊢
  rw [hsum, Option.bind_some, Window.foldl_tapsAt, denseAt]

theorem depthwiseValue?_eq {channel : Nat}
    (hsize : x.data.size = x.shape.volume)
    (hweights : f.weights.size = x.shape.channels
      * (f.window.vertical.kernel * f.window.horizontal.kernel))
    (hbias : f.BiasCovers x.shape.channels)
    (hchannel : channel < x.shape.channels) :
    f.depthwiseValue? x.data x.shape
      (f.window.vertical.kernel * f.window.horizontal.kernel)
        (f.window.tapsAt x.shape oy ox) channel
      = some (f.depthwiseAt x oy ox channel) := by
  have hsum : (f.window.tapsAt x.shape oy ox).foldlM (fun acc t => do
      let v ← x.data[(t.y * x.shape.width + t.x) * x.shape.channels + channel]?
      let w ←
        f.weights[channel
          * (f.window.vertical.kernel * f.window.horizontal.kernel)
        + (t.row * f.window.horizontal.kernel + t.column)]?
      some (acc + v * w)) (f.biasAt channel)
      = some ((f.window.tapsAt x.shape oy ox).foldl (fun acc t =>
          acc + x.value t.y t.x channel
            * f.depthwiseWeight channel t.row t.column)
          (f.biasAt channel)) := by
    refine foldlM_eq_some fun t ht acc => ?_
    obtain ⟨⟨hrow, hcolumn⟩, hy, hx⟩ := Window.bounds_of_mem_tapsAt ht
    have hcell := rowMajor_lt hchannel (rowMajor_lt hrow hcolumn)
    have hassoc : channel * (f.window.vertical.kernel
      * f.window.horizontal.kernel)
          + (t.row * f.window.horizontal.kernel + t.column)
        = (channel * f.window.vertical.kernel + t.row)
          * f.window.horizontal.kernel + t.column := by
      rw [Nat.add_mul, Nat.mul_assoc, Nat.add_assoc]
    have hvalue : x.data[(t.y * x.shape.width + t.x) * x.shape.channels
      + channel]?
        = some (x.value t.y t.x channel) :=
          Tensor.value?_eq_value hsize hy hx hchannel
    have hweight : f.weights[(channel * f.window.vertical.kernel + t.row)
          * f.window.horizontal.kernel + t.column]?
        = some (f.depthwiseWeight channel t.row t.column) := by
      have hlt := hweights ▸ hassoc ▸ hcell
      simp [depthwiseWeight, Array.getElem?_eq_getElem hlt]
    simp only [hvalue, hassoc, hweight, Option.bind_eq_bind, Option.bind_some]
  simp only [depthwiseValue?, hbias.biasAt?_eq hchannel, Option.bind_eq_bind,
    Option.bind_some] at hsum ⊢
  rw [hsum, Option.bind_some, Window.foldl_tapsAt, depthwiseAt]

-- ===================================================== the two dense ways

/-- The one cell of a kernel that visits every pixel in place. -/
theorem taps_of_single {a : Axis} {limit o : Nat} (hkernel : a.kernel = 1)
    (hstride : a.stride = 1) (hpadding : a.padding = 0) (ho : o < limit) :
    a.taps limit (o * a.stride) = [(0, o)] := by
  have hfirst : a.cellsBefore (o * a.stride) a.padding = 0 := by
    refine Nat.eq_zero_of_not_pos fun hpos => ?_
    have := (Axis.lt_cellsBefore_iff.1 hpos).2
    omega
  have hpast : a.cellsBefore (o * a.stride) (a.padding + limit) = 1 := by
    have hpos : 0 < a.cellsBefore (o * a.stride) (a.padding + limit) :=
      Axis.lt_cellsBefore_iff.2 ⟨by omega, by rw [hstride]; omega⟩
    have hle : ¬1 < a.cellsBefore (o * a.stride) (a.padding + limit) := by
      intro hlt
      have := (Axis.lt_cellsBefore_iff.1 hlt).1
      omega
    omega
  rw [Axis.taps, hfirst, hpast]
  simp [hstride, hpadding]

/-- A kernel of one cell that visits every pixel has one tap, in place. -/
theorem tapsAt_of_isPointwise {w : Window} {image : Shape}
    (hw : isPointwise w = true) (hy : oy < image.height)
    (hx : ox < image.width) :
    w.tapsAt image oy ox = [⟨0, 0, oy, ox⟩] := by
  simp only [isPointwise, Bool.and_eq_true, beq_iff_eq] at hw
  obtain ⟨⟨⟨⟨⟨hkv, hkh⟩, hsv⟩, hsh⟩, hpv⟩, hph⟩ := hw
  rw [Window.tapsAt, taps_of_single hkv hsv hpv hy,
    taps_of_single hkh hsh hph hx]
  rfl

/-- One inner product is a sum over one tap. -/
theorem pointwiseValue?_eq (input : Array Single) (image : Shape) (o : Nat)
    (hw : isPointwise f.window = true) :
    f.denseValue? input image backend [⟨0, 0, oy, ox⟩] o
      = f.pointwiseValue? input image backend (oy * image.width + ox) o := by
  simp only [isPointwise, Bool.and_eq_true, beq_iff_eq] at hw
  obtain ⟨⟨⟨⟨⟨hkv, hkh⟩, -⟩, -⟩, -⟩, -⟩ := hw
  simp [denseValue?, pointwiseValue?, hkv, hkh, Option.bind_assoc]

/-- Both ways of convolving leave the same. -/
theorem convolve?_eq_dense? {input : Array Single} {image : Shape}
    (hin : image.size? = some input.size)
    (hout : outShape.size? = some outShape.volume)
    (hweights : denseWeights? f.window image.channels outShape.channels
      = some f.weights.size)
    (hbias : f.BiasCovers outShape.channels)
    (hplaces : f.window.Places image.height image.width
      (outShape.height, outShape.width))
    (hinputs : 0 < image.channels) (houtputs : 0 < outShape.channels)
    {out : Array Single} (hsize : out.size = outShape.volume) :
    f.convolve? input image outShape out backend
      = f.dense? input image backend outShape out := by
  rw [convolve?_eq hin hout hweights hsize]
  by_cases hpoint : isPointwise f.window = true
  · have hinput : input.size = image.volume :=
      (Shape.size?_eq_some_iff.1 hin).2.2.symm
    have hcount := (denseWeights?_eq_some_iff.1 hweights).2.2.2
    obtain ⟨hsame, hpairs⟩ := pointwise_lengths hpoint hinput hcount hplaces
    obtain ⟨hheight, hwidth⟩ :=
      Prod.mk.inj (places_of_isPointwise hpoint hplaces)
    obtain ⟨r, -, hr⟩ :=
      exists_pointwise? backend _ _ hsame hpairs hbias hinputs houtputs
    obtain ⟨r', -, hr'⟩ := exists_dense? backend hinput hcount hbias hplaces
    have hpaint :=
      (pointwise?_eq_paint? hsame hinputs houtputs hsize).symm.trans
        (hr out hsize)
    have hpaint' := (dense?_eq_paint? hbias out).symm.trans (hr' out hsize)
    rw [if_pos hpoint, hr out hsize, hr' out hsize]
    refine congrArg some (Kernel.paint?_ext hpaint hpaint' fun p hp o ho => ?_)
    have hpos : 0 < outShape.width := Nat.pos_of_lt_mul_left hp
    have hy : p / outShape.width < image.height := by
      rw [← hheight]
      exact (Nat.div_lt_iff_lt_mul hpos).2 hp
    have hx : p % outShape.width < image.width := by
      rw [← hwidth]
      exact Nat.mod_lt p hpos
    rw [hplaces.taps?_position hp, Option.bind_some, Option.bind_some,
      tapsAt_of_isPointwise hpoint hy hx,
      pointwiseValue?_eq input image o hpoint, ← hwidth, Nat.div_add_mod']
  · rw [if_neg hpoint]

-- ============================================================= results

/-- What the general path leaves at an element. -/
theorem dense?_element {out r : Array Single}
    (hsize : x.data.size = x.shape.volume)
    (hweights : f.weights.size = outShape.channels * f.window.vertical.kernel
      * f.window.horizontal.kernel * x.shape.channels)
    (hbias : f.BiasCovers outShape.channels)
    (hplaces : f.window.Places x.shape.height x.shape.width
      (outShape.height, outShape.width))
    (h : f.dense? x.data x.shape backend outShape out = some r) {o : Nat}
    (hy : oy < outShape.height) (hx : ox < outShape.width)
    (ho : o < outShape.channels) :
    (⟨outShape, r⟩ : Tensor Single).value? oy ox o
      = some (f.denseAt x backend oy ox o) := by
  rw [dense?_eq_paint? hbias] at h
  have hp := rowMajor_lt hy hx
  refine (Kernel.paint?_cell h hp ho).trans ?_
  rw [hplaces.taps?_position hp, Option.bind_some, Window.tapsAt_place hx]
  exact denseValue?_eq hsize hweights hbias ho

/-- What a per-channel convolution leaves at an element. -/
theorem depthwise?_element {cells : Nat} {out r : Array Single}
    (hsize : x.data.size = x.shape.volume)
    (hcells : Size.mul f.window.vertical.kernel f.window.horizontal.kernel
      = some cells)
    (hweights : Size.mul x.shape.channels cells = some f.weights.size)
    (hbias : f.BiasCovers x.shape.channels)
    (hplaces : f.window.Places x.shape.height x.shape.width
      (outShape.height, outShape.width))
    (hchannels : x.shape.channels = outShape.channels)
    (h : f.depthwise? x.data x.shape outShape out = some r) {channel : Nat}
    (hy : oy < outShape.height) (hx : ox < outShape.width)
    (hchannel : channel < outShape.channels) :
    (⟨outShape, r⟩ : Tensor Single).value? oy ox channel
      = some (f.depthwiseAt x oy ox channel) := by
  rw [depthwise?_eq_paint? hcells hweights hbias hchannels] at h
  obtain ⟨-, rfl⟩ := Size.mul_eq_some_iff.1 hcells
  have hcount := (Size.mul_eq_some_iff.1 hweights).2.symm
  have hp := rowMajor_lt hy hx
  rw [← hchannels] at hchannel
  rw [Tensor.value?, ← hchannels]
  refine (Kernel.paint?_cell h hp hchannel).trans ?_
  rw [hplaces.pixelTaps?_position hsize hp, Option.bind_some,
    Window.tapsAt_place hx]
  exact depthwiseValue?_eq hsize hcount hbias hchannel

end Filter

namespace Kernel

variable {x : Tensor Single} {outShape : Shape} {oy ox : Nat}

/-- The maximum of a channel over the pixels under the cells of a window. -/
def maxAt (w : Window) (x : Tensor Single) (oy ox channel : Nat) : Single :=
  w.foldCells x.shape oy ox (fun acc t => acc.max (x.value t.y t.x channel))
    Single.negInfinity

/-- Over its taps a maximum comes out as the formula. -/
theorem maxValue?_eq {w : Window} {channel : Nat}
    (hsize : x.data.size = x.shape.volume)
    (hchannel : channel < x.shape.channels) :
    maxValue? x.data x.shape (w.tapsAt x.shape oy ox) channel
      = some (maxAt w x oy ox channel) := by
  rw [maxAt, ← Window.foldl_tapsAt, maxValue?]
  refine foldlM_eq_some fun t ht acc => ?_
  obtain ⟨-, hy, hx⟩ := Window.bounds_of_mem_tapsAt ht
  have hvalue : x.data[(t.y * x.shape.width + t.x) * x.shape.channels
    + channel]?
      = some (x.value t.y t.x channel) :=
        Tensor.value?_eq_value hsize hy hx hchannel
  rw [hvalue, Option.bind_eq_bind, Option.bind_some]

/-- What max pooling leaves at an element. -/
theorem maxPool?_element {w : Window} {out r : Array Single}
    (hsize : x.data.size = x.shape.volume)
    (hplaces : w.Places x.shape.height x.shape.width
      (outShape.height, outShape.width))
    (hchannels : outShape.channels = x.shape.channels)
    (h : maxPool? w x.data x.shape outShape out = some r) {channel : Nat}
    (hy : oy < outShape.height) (hx : ox < outShape.width)
    (hchannel : channel < outShape.channels) :
    (⟨outShape, r⟩ : Tensor Single).value? oy ox channel
      = some (maxAt w x oy ox channel) := by
  have hp := rowMajor_lt hy hx
  rw [hchannels] at hchannel
  rw [Tensor.value?, hchannels]
  refine (paint?_cell h hp hchannel).trans ?_
  rw [hplaces.pixelTaps?_position hsize hp, Option.bind_some,
    Window.tapsAt_place hx]
  exact maxValue?_eq hsize hchannel

/-- The mean of a channel: its values at all pixels, row after row, added from
zero on, times the reciprocal of their number. -/
def meanAt (x : Tensor Single) (channel : Nat) : Single :=
  (List.range (x.shape.height * x.shape.width)).foldl
      (fun acc p => acc + x.value (p / x.shape.width)
        (p % x.shape.width) channel)
      Single.zero
    * (Single.one / Single.ofSize (x.shape.height * x.shape.width))

/-- The loop over the pixels of a channel is a sum from the left. -/
theorem channelSum_eq_foldl {input : Array Single} {channels channel n p : Nat}
    {acc : Single} :
    channelSum input channels channel n p acc
      = (List.range n).foldl (fun acc k =>
      acc + input.getD ((p + k) * channels + channel) Single.zero) acc := by
  induction n generalizing p acc with
  | zero => rfl
  | succ n ih =>
      rw [channelSum, ih, List.range_succ_eq_map, List.foldl_cons,
        List.foldl_map]
      simp only [Nat.succ_eq_add_one, Nat.add_zero, Nat.add_assoc,
        Nat.add_comm 1]

/-- What a mean over all positions leaves for a channel. -/
theorem meanPool?_element {out r : Array Single}
    (hsize : x.data.size = x.shape.volume)
    (h : meanPool? x.data x.shape out = some r) {channel : Nat}
    (hchannel : channel < x.shape.channels) :
    r[channel]? = some (meanAt x channel) := by
  unfold meanPool? at h
  obtain ⟨positions, hpositions, h⟩ := Option.bind_eq_some_iff.1 h
  obtain ⟨-, rfl⟩ := Size.mul_eq_some_iff.1 hpositions
  split at h
  · cases h
  · have hcount :
        x.data.size / x.shape.channels = x.shape.height * x.shape.width := by
      rw [hsize, Shape.volume, Nat.mul_div_cancel _ (by omega)]
    have hcell := paint?_cell h Nat.zero_lt_one hchannel
    rw [Nat.zero_mul, Nat.zero_add, Option.bind_some, hcount,
      channelSum_eq_foldl] at hcell
    rw [hcell, meanAt]
    simp only [Tensor.value, Nat.div_add_mod', Nat.zero_add]

end Kernel

namespace Filter

variable {f : Filter} {x : Tensor Single}

/-- The value of a fully connected layer at an output, on a backend: its
weights lie row after row, a row for each output. -/
def affineAt (f : Filter) (x : Tensor Single) (backend : Backend) (o : Nat) :
    Single :=
  f.activation.apply (f.biasAt o + Kernel.innerProduct x.data.size
    (fun i => f.weights.getD (o * x.data.size + i) Single.zero)
    (fun i => x.data.getD i Single.zero) backend)

/-- The row of an output comes out as the formula. -/
theorem affineValue?_eq {backend : Backend} {outputs o : Nat}
    (hweights : f.weights.size = outputs * x.data.size)
    (hbias : f.BiasCovers outputs) (ho : o < outputs) :
    Kernel.affineValue? f.weights f.bias f.activation x.data backend o
      = some (f.affineAt x backend o) := by
  have hrow : o * x.data.size + x.data.size ≤ f.weights.size :=
    hweights ▸ run_le ho
  have hterm := Kernel.dotRun?_eq_some (b := x.data) (j := 0) backend hrow
    (Nat.le_of_eq (Nat.zero_add _))
  have hcells : Kernel.cellsFrom x.data 0 = fun i =>
      x.data.getD i Single.zero := by
    funext i
    rw [Kernel.cellsFrom, Nat.zero_add]
  rw [hcells] at hterm
  have hstart := hbias.biasAt?_eq ho
  unfold biasAt? at hstart
  cases hb : f.bias with
  | none =>
      rw [hb] at hstart
      simp only [Kernel.affineValue?, hterm, Option.bind_eq_bind,
        Option.bind_some, affineAt, ← Option.some.inj hstart]
      rfl
  | some bias =>
      rw [hb] at hstart
      simp only [Kernel.affineValue?, hstart, hterm, Option.bind_eq_bind,
        Option.bind_some, affineAt]
      rfl

/-- What a fully connected layer leaves at an output. -/
theorem affine?_element {backend : Backend} {out r : Array Single}
    (hbias : f.BiasCovers out.size)
    (h : Kernel.affine? f.weights f.bias f.activation x.data out backend
      = some r)
    {o : Nat} (ho : o < out.size) : r[o]? = some (f.affineAt x backend o) := by
  unfold Kernel.affine? at h
  obtain ⟨expected, hexpected, h⟩ := Option.bind_eq_some_iff.1 h
  obtain ⟨-, rfl⟩ := Size.mul_eq_some_iff.1 hexpected
  split at h
  · cases h
  · have hweights : f.weights.size = out.size * x.data.size := by
      rw [Nat.mul_comm]
      omega
    have hcell := Kernel.paint?_cell h ho Nat.zero_lt_one
    rw [Nat.mul_one, Nat.add_zero, Option.bind_some] at hcell
    rw [hcell, affineValue?_eq hweights hbias ho]

end Filter

end FireNet
