/-
What the bound operators that add up compute. A set-up accepts a geometry
by its sizes alone; here the values are told, each as one sum in one order.
That of a convolution starts at the bias and goes over the kernel cells row
after row, those in the padding left out (`Filter.denseAt`,
`Filter.depthwiseAt`). A fully connected layer adds one inner product to its
bias (`Filter.affineAt`), and the mean of a channel sums its pixels
(`Kernel.meanAt`). The activation comes last: a rectified value is the
least number that is not below zero and not below the sum
(`Activation.relu_bounds`).

A dense kernel of one cell that visits every pixel has a loop of its own,
which walks runs of the buffers and no coordinates. It leaves the same bits
as the general loop. A convolution by channel lays its weights channel
first over data with the channel last; no value of another channel comes
into its sum.
-/
import FireNet.Proofs.Binding
import FireNet.Proofs.Kernel.Elements
import FireNet.Proofs.Numeric.Order

set_option autoImplicit false

namespace FireNet

/-- A rectified value is a number that is at least zero and at least the
value, and it is one of the two. What is not a number becomes zero. -/
theorem Activation.relu_bounds (v : Single) :
    (relu.apply v).isNaN = false ∧ Single.zero.AtMost (relu.apply v)
      ∧ (v.isNaN = false → v.AtMost (relu.apply v))
      ∧ (relu.apply v = v ∨ relu.apply v = Single.zero) := by
  have hzero : Single.zero.isNaN = false := by decide
  show (v.max Single.zero).isNaN = false
    ∧ Single.zero.AtMost (v.max Single.zero) ∧ _
  by_cases hv : v.isNaN = true
  · have hmax : v.max Single.zero = Single.zero := if_pos hv
    rw [hmax]
    refine ⟨hzero, Single.atMost_refl hzero, fun hnumber => ?_, Or.inr hmax⟩
    rw [hv] at hnumber
    cases hnumber
  · have hbounds := Single.max_bounds (Bool.eq_false_iff.2 hv) hzero
    exact ⟨hbounds.1, hbounds.2.2, fun _ => hbounds.2.1, Single.max_eq_or⟩

namespace Filter

variable {f g : Filter} {x z : Tensor Single}

/-- All that a dense convolution reads is there: a bias for every output,
and under each kernel cell that lies on the image as many values of the
image as of the weights. -/
def ReadsInRange (f : Filter) (x : Tensor Single) (outputs : Nat) : Prop :=
  ∀ o < outputs, (∀ bias, f.bias = some bias → o < bias.size) ∧
    ∀ oy ox, ∀ row < f.window.vertical.kernel,
      ∀ column < f.window.horizontal.kernel,
      f.window.Hits x.shape oy ox row column →
        let t := f.window.tap oy ox row column
        (t.y * x.shape.width + t.x) * x.shape.channels + x.shape.channels
          ≤ x.data.size ∧
          ((o * f.window.vertical.kernel + row)
            * f.window.horizontal.kernel + column)
              * x.shape.channels + x.shape.channels ≤ f.weights.size

/-- The checked counts are all that is needed. -/
theorem readsInRange {outputs : Nat} (hsize : x.data.size = x.shape.volume)
    (hweights : f.weights.size = outputs * f.window.vertical.kernel
      * f.window.horizontal.kernel * x.shape.channels)
    (hbias : f.BiasCovers outputs) : f.ReadsInRange x outputs := by
  intro o ho
  refine ⟨fun bias hb => by rw [hbias bias hb]; exact ho, ?_⟩
  intro oy ox row hrow column hcolumn hhits
  obtain ⟨-, hy, hx⟩ :=
    Window.bounds_of_mem_tapsAt
      (Window.mem_tapsAt_iff.2 ⟨row, hrow, column, hcolumn, hhits, rfl⟩)
  exact ⟨hsize ▸ Shape.pixel_le hy hx, denseCell_le hweights ho hrow hcolumn⟩

/-- The value of a channel comes from that channel alone: from its values of
the image, its own kernel and its bias. -/
theorem depthwiseAt_congr {channel oy ox : Nat} (hwindow : g.window = f.window)
    (hactivation : g.activation = f.activation) (hshape : z.shape = x.shape)
    (hvalues : ∀ iy < x.shape.height, ∀ ix < x.shape.width,
      z.value iy ix channel = x.value iy ix channel)
    (hweights : ∀ row < f.window.vertical.kernel,
      ∀ column < f.window.horizontal.kernel,
        g.depthwiseWeight channel row column
          = f.depthwiseWeight channel row column)
    (hbias : g.biasAt channel = f.biasAt channel) :
    g.depthwiseAt z oy ox channel = f.depthwiseAt x oy ox channel := by
  rw [depthwiseAt, depthwiseAt, hwindow, hactivation, hshape, hbias]
  refine congrArg f.activation.apply (Window.foldCells_congr fun t ht acc => ?_)
  obtain ⟨⟨hrow, hcolumn⟩, hy, hx⟩ := Window.bounds_of_mem_tapsAt ht
  rw [hvalues t.y hy t.x hx, hweights t.row hrow t.column hcolumn]

end Filter

namespace Primitive

variable {b b' : Bench} {name : String} {handle : Handle} {layer : Layer}
  {p : Primitive} {input output : TensorId} {x : Tensor Single}

-- ================================================================ dense

/-- What a dense convolution leaves, for every geometry that its set-up
accepts, every backend, every input and whatever the output held. Its
cells are not spread, all that it reads is in range, and both of its loops
come out with the same result, which is the sum over the cells, element by
element. On the scalar backend each term of the sum is an inner product
added up from the left (`Kernel.scalarProduct`). -/
theorem convolution_sums (hsound : b.arena.Sound)
    (hsetup : setup name (.convolution layer) input output handle b = .ok p b')
    (hx : x.Sound) (hin : x.shape = p.inShape) :
    (∀ o k, layer.window.vertical.coordinate o k
        = ((o * layer.window.vertical.stride + k : Nat) : Int)
          - layer.window.vertical.padding)
      ∧ (∀ o k, layer.window.horizontal.coordinate o k
        = ((o * layer.window.horizontal.stride + k : Nat) : Int)
          - layer.window.horizontal.padding)
      ∧ layer.filter.ReadsInRange x p.outShape.channels
      ∧ ∀ backend, ∃ y : Tensor Single, y.shape = p.outShape ∧ y.Sound
        ∧ (∀ out : Array Single, out.size = p.outShape.volume →
          layer.filter.convolve? x.data p.inShape p.outShape out backend
            = some y.data
            ∧ layer.filter.dense? x.data p.inShape backend p.outShape out
              = some y.data)
        ∧ ∀ oy < p.outShape.height, ∀ ox < p.outShape.width,
          ∀ o < p.outShape.channels,
          y.value? oy ox o = some (layer.filter.denseAt x backend oy ox o) := by
  obtain ⟨inShape, outShape, -, hout, hcheck, rfl, rfl⟩ :=
    setup_eq_ok_iff.1 hsetup
  subst hin
  obtain ⟨old, hold, rfl⟩ := Arena.shape?_eq_some_iff.1 hout
  have hfits := (hsound _ _ hold).size?_eq
  obtain ⟨hin, houtputs, hdilation, hplaces, hweights, hbias⟩ :=
    Action.check_convolution_eq_ok_iff.1 hcheck
  rw [← hin.2, ← houtputs.2] at hweights
  rw [← houtputs.2] at hbias
  have hcount : layer.filter.weights.size = _ :=
    (Filter.denseWeights?_eq_some_iff.1 hweights).2.2.2
  refine ⟨fun _ _ => Axis.coordinate_of_undilated hdilation.1,
    fun _ _ => Axis.coordinate_of_undilated hdilation.2,
    Filter.readsInRange hx.size_eq hcount hbias, fun backend => ?_⟩
  obtain ⟨⟨shape, data⟩, -, rfl, hys, hcompute⟩ :=
    Action.exists_over? backend hx hfits hcheck
  have hdense (out : Array Single) (hsize : out.size = old.shape.volume) :
      layer.filter.dense? x.data x.shape backend old.shape out = some data :=
    (Filter.convolve?_eq_dense? hx hfits hweights hbias hplaces
      (by omega) (by omega) hsize).symm.trans (hcompute out hsize)
  refine ⟨⟨old.shape, data⟩, rfl, hys,
    fun out hsize => ⟨hcompute out hsize, hdense out hsize⟩,
    fun oy hy ox hx' o ho => ?_⟩
  exact Filter.dense?_element hx.size_eq hcount hbias hplaces
    (hdense old.data (hsound _ _ hold).size_eq) hy hx' ho

/-- A kernel of two rows and one column, strides that differ, padding above
and below, on the scalar backend. -/
theorem convolution_sums_uneven :
    ∃ (layer : Layer) (p : Primitive) (b' : Bench) (x y : Tensor Single),
      setup "conv" (.convolution layer) ⟨0⟩ ⟨1⟩ ⟨.scalar⟩
          (Bench.ofArena (Arena.empty.grow [⟨3, 4, 2⟩, ⟨4, 2, 3⟩])) = .ok p b'
        ∧ x.Sound ∧ x.shape = p.inShape
        ∧ layer.filter.convolve? x.data ⟨3, 4, 2⟩ ⟨4, 2, 3⟩
          (Array.replicate 24 Single.quietNaN) .scalar = some y.data
        ∧ y.value? 3 1 2 = some (layer.filter.denseAt x .scalar 3 1 2) := by
  have hsound : (Arena.empty.grow [⟨3, 4, 2⟩, ⟨4, 2, 3⟩]).Sound :=
    Arena.empty_sound.grows ⟨_, by decide, rfl⟩
  have hx : (⟨⟨3, 4, 2⟩, Array.replicate 24 Single.half⟩ : Tensor
    Single).Sound := rfl
  obtain ⟨p, b', hsetup, hin, hout⟩ : ∃ (p : Primitive) (b' : Bench),
      setup "conv" (.convolution ⟨2, 3, ⟨⟨2, 1, 1, 1⟩, ⟨1, 3, 0, 1⟩⟩, .relu,
          Array.replicate 12 Single.one, none⟩) ⟨0⟩ ⟨1⟩ ⟨.scalar⟩
        (Bench.ofArena (Arena.empty.grow [⟨3, 4, 2⟩, ⟨4, 2, 3⟩])) = .ok p b'
        ∧ p.inShape = ⟨3, 4, 2⟩ ∧ p.outShape = ⟨4, 2, 3⟩ :=
          ⟨_, _, rfl, rfl, rfl⟩
  obtain ⟨-, -, -, hall⟩ := convolution_sums hsound hsetup hx hin.symm
  obtain ⟨y, -, -, hruns, hvalues⟩ := hall .scalar
  rw [hin, hout] at hruns
  rw [hout] at hvalues
  exact ⟨_, p, b', _, y, hsetup, hx, hin.symm, (hruns _ rfl).1,
    hvalues 3 (by decide) 1 (by decide) 2 (by decide)⟩

-- ========================================================== per channel

/-- A pass of a convolution by channel, on any contents of the tensors it
was bound to. It leaves the sum of each channel over the cells, element by
element, and a change of the other channels changes no sum. -/
theorem depthwise_sums (hsound : b.arena.Sound)
    (hsetup : setup name (.depthwise layer) input output handle b = .ok p b')
    (hne : input ≠ output) {a : Arena} (ha : b'.arena.Alike a) :
    (∀ o k, layer.window.vertical.coordinate o k
        = ((o * layer.window.vertical.stride + k : Nat) : Int)
          - layer.window.vertical.padding)
      ∧ (∀ o k, layer.window.horizontal.coordinate o k
        = ((o * layer.window.horizontal.stride + k : Nat) : Int)
          - layer.window.horizontal.padding)
      ∧ ∃ x y : Tensor Single, a.tensor? input = some x ∧ x.shape = p.inShape
        ∧ p.forward a = .ok () (a.put output y) ∧ y.shape = p.outShape ∧ y.Sound
        ∧ (∀ oy < p.outShape.height, ∀ ox < p.outShape.width,
          ∀ channel < p.outShape.channels,
          y.value? oy ox channel
            = some (layer.filter.depthwiseAt x oy ox channel))
        ∧ ∀ (other : Filter) (z : Tensor Single) (channel : Nat),
          other.window = layer.window → other.activation = layer.activation →
          z.shape = x.shape →
          (∀ iy < x.shape.height, ∀ ix < x.shape.width,
            z.value iy ix channel = x.value iy ix channel) →
          (∀ row < layer.window.vertical.kernel,
            ∀ column < layer.window.horizontal.kernel,
            other.depthwiseWeight channel row column
              = layer.filter.depthwiseWeight channel row column) →
          other.biasAt channel = layer.filter.biasAt channel →
          ∀ oy ox, other.depthwiseAt z oy ox channel
            = layer.filter.depthwiseAt x oy ox channel := by
  obtain ⟨x, y, hx, hxs, hin, hcheck, hover, hshape, hys, hrun⟩ :=
    pass_of_setup hsound hsetup hne ha
  rw [← hin] at hcheck
  obtain ⟨heven, himage, houtputs, hdilation, hplaces, -, hbias⟩ :=
    Action.check_depthwise_eq_ok_iff.1 hcheck
  obtain ⟨cells, hcells, hweights⟩ := Action.weights_of_check_depthwise hcheck
  have hchannels : x.shape.channels = layer.outputs := himage.2.trans heven
  rw [← hchannels] at hbias
  obtain ⟨data, hcompute, hy⟩ := Option.bind_eq_some_iff.1 hover
  cases hy
  refine ⟨fun _ _ => Axis.coordinate_of_undilated hdilation.1,
    fun _ _ => Axis.coordinate_of_undilated hdilation.2, x, _, hx, hin, hrun,
    hshape, hys,
    fun oy hy ox hx' channel hchannel => ?_, ?_⟩
  · exact Filter.depthwise?_element hxs.size_eq hcells hweights hbias hplaces
      (hchannels.trans houtputs.2.symm) hcompute hy hx' hchannel
  · intro other z channel hwindow hactivation hshape hvalues hrows hstart oy ox
    exact Filter.depthwiseAt_congr hwindow hactivation hshape hvalues
      hrows hstart

/-- A pass with such a kernel for each of two channels. -/
theorem depthwise_sums_uneven :
    ∃ (layer : Layer) (p : Primitive) (b' : Bench) (x y : Tensor Single),
      setup "dw" (.depthwise layer) ⟨0⟩ ⟨1⟩ ⟨.scalar⟩
          (Bench.ofArena (Arena.empty.grow [⟨3, 4, 2⟩, ⟨4, 2, 2⟩])) = .ok p b'
        ∧ b'.arena.tensor? ⟨0⟩ = some x
        ∧ p.forward b'.arena = .ok () (b'.arena.put ⟨1⟩ y)
        ∧ y.value? 3 1 1 = some (layer.filter.depthwiseAt x 3 1 1) := by
  have hsound : (Arena.empty.grow [⟨3, 4, 2⟩, ⟨4, 2, 2⟩]).Sound :=
    Arena.empty_sound.grows ⟨_, by decide, rfl⟩
  obtain ⟨p, b', hsetup, hout⟩ : ∃ (p : Primitive) (b' : Bench),
      setup "dw" (.depthwise ⟨2, 2, ⟨⟨2, 1, 1, 1⟩, ⟨1, 3, 0, 1⟩⟩, .identity,
          Array.replicate 4 Single.half, some #[Single.zero, Single.one]⟩) ⟨0⟩
            ⟨1⟩ ⟨.scalar⟩
        (Bench.ofArena (Arena.empty.grow [⟨3, 4, 2⟩, ⟨4, 2, 2⟩])) = .ok p b'
        ∧ p.outShape = ⟨4, 2, 2⟩ := ⟨_, _, rfl, rfl⟩
  obtain ⟨-, -, x, y, hx, -, hrun, -, -, hvalues, -⟩ :=
    depthwise_sums hsound hsetup (by decide) fun _ => rfl
  rw [hout] at hvalues
  exact ⟨_, p, b', x, y, hsetup, hx, hrun,
    hvalues 3 (by decide) 1 (by decide) 1 (by decide)⟩

-- ======================================================= rows and means

/-- A pass of a fully connected layer. Each output is the activation of its
bias and the inner product of its row of weights with the whole input, taken
on the backend of the handle. -/
theorem fullyConnected_sums (hsound : b.arena.Sound)
    (hsetup : setup name (.fullyConnected layer) input output handle b
      = .ok p b')
    (hne : input ≠ output) {a : Arena} (ha : b'.arena.Alike a) :
    ∃ x y : Tensor Single, a.tensor? input = some x ∧ x.shape = p.inShape
      ∧ p.forward a = .ok () (a.put output y) ∧ y.shape = p.outShape ∧ y.Sound
      ∧ y.data.size = layer.outputs
      ∧ ∀ o < layer.outputs,
        y.data[o]? = some (layer.filter.affineAt x handle.backend o) := by
  obtain ⟨x, y, hx, hxs, hin, hcheck, hover, hshape, hys, hrun⟩ :=
    pass_of_setup hsound hsetup hne ha
  obtain ⟨-, -, houtputs, -, hbias⟩ :=
    Action.check_fullyConnected_eq_ok_iff.1 hcheck
  have hsize : y.data.size = layer.outputs := by
    rw [← hshape, hys] at houtputs
    exact Option.some.inj houtputs
  obtain ⟨data, hcompute, hy⟩ := Option.bind_eq_some_iff.1 hover
  cases hy
  have hout : (Tensor.blank p.outShape).data.size = layer.outputs :=
    Array.size_replicate.trans (hys.size_eq.symm.trans hsize)
  refine ⟨x, _, hx, hin, hrun, hshape, hys, hsize, fun o ho => ?_⟩
  exact Filter.affine?_element (f := layer.filter) (hout ▸ hbias) hcompute
    (hout ▸ ho)

/-- A pass of the mean over all pixels: one value for each channel. -/
theorem meanPool_means (hsound : b.arena.Sound)
    (hsetup : setup name .meanPool input output handle b = .ok p b')
    (hne : input ≠ output) {a : Arena} (ha : b'.arena.Alike a) :
    ∃ x y : Tensor Single, a.tensor? input = some x ∧ x.shape = p.inShape
      ∧ p.forward a = .ok () (a.put output y)
      ∧ y.shape = ⟨1, 1, p.inShape.channels⟩
      ∧ y.Sound
      ∧ ∀ channel < p.inShape.channels,
        y.value? 0 0 channel = some (Kernel.meanAt x channel) := by
  obtain ⟨x, y, hx, hxs, hin, hcheck, hover, hshape, hys, hrun⟩ :=
    pass_of_setup hsound hsetup hne ha
  obtain ⟨-, ⟨-, hchannels⟩, hheight, hwidth⟩ :=
    Action.check_meanPool_eq_ok_iff.1 hcheck
  have hout : p.outShape = ⟨1, 1, p.inShape.channels⟩ := by
    show Shape.mk p.outShape.height p.outShape.width p.outShape.channels = _
    rw [hheight, hwidth, hchannels]
  obtain ⟨data, hcompute, hy⟩ := Option.bind_eq_some_iff.1 hover
  cases hy
  refine ⟨x, _, hx, hin, hrun, hout, hys, fun channel hchannel => ?_⟩
  rw [Tensor.value?, Nat.zero_mul, Nat.zero_add, Nat.zero_mul, Nat.zero_add]
  exact Kernel.meanPool?_element hxs.size_eq hcompute (hin ▸ hchannel)

end Primitive

end FireNet
