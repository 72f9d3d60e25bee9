/-
Convolutions come out. Given buffers of the promised lengths and a window
that has the output's places, a dense and a per-channel convolution read
only inside their buffers, write every cell of the output, and end the same
whatever the output held.

A dense convolution has two ways of computing; the one for a single cell
visits the pixels in pairs, and covers the whole output because such a
window has as many places as the image has pixels (`places_of_isPointwise`).
-/
import FireNet.Kernel.Filter
import FireNet.Proofs.Kernel.Paint
import FireNet.Proofs.Window

set_option autoImplicit false

namespace FireNet

-- ================================================================= sums

/-- A sum whose terms all exist exists. -/
theorem isSome_foldlM {α β : Type} {f : β → α → Option β} {l : List α} {b : β}
    (h : ∀ a ∈ l, ∀ b, (f b a).isSome) : (l.foldlM f b).isSome := by
  induction l generalizing b with
  | nil => rfl
  | cons a l ih =>
      obtain ⟨b', hb'⟩ := Option.isSome_iff_exists.1 (h a List.mem_cons_self b)
      rw [List.foldlM_cons, hb']
      exact ih fun a' ha' => h a' (List.mem_cons_of_mem a ha')

/-- A product over two runs that are there comes out. -/
theorem Kernel.isSome_dotRun? (backend : Backend) {a b : Array Single}
    {i j n : Nat} (ha : i + n ≤ a.size) (hb : j + n ≤ b.size) :
    (dotRun? backend a i b j n).isSome := by
  rw [dotRun?, if_pos ⟨ha, hb⟩]
  rfl

namespace Filter

variable {f : Filter} {input : Array Single} {image outShape : Shape}
  {backend : Backend}

-- =============================================================== lengths

/-- A bias, if there is one, has a value for each of the channels. -/
def BiasCovers (f : Filter) (channels : Nat) : Prop :=
  ∀ bias, f.bias = some bias → bias.size = channels

theorem BiasCovers.biasFits_eq_true {channels : Nat}
    (h : f.BiasCovers channels) :
    f.biasFits channels = true := by
  unfold Filter.biasFits
  cases hb : f.bias with
  | none => rfl
  | some bias => exact beq_iff_eq.2 (h bias hb)

/-- A bias that covers the channels has a value for each. -/
theorem BiasCovers.exists_biasAt {channels o : Nat} (h : f.BiasCovers channels)
    (ho : o < channels) : ∃ start, f.biasAt? o = some start := by
  unfold biasAt?
  cases hb : f.bias with
  | none => exact ⟨_, rfl⟩
  | some bias =>
      exact ⟨_, Array.getElem?_eq_getElem (by rw [h bias hb]; exact ho)⟩

/-- The number of weights is given when all its factors multiply within
words. -/
theorem denseWeights?_eq_some_iff {w : Window} {inputs outputs n : Nat} :
    denseWeights? w inputs outputs = some n ↔
      outputs * w.vertical.kernel < Size.limit
        ∧ outputs * w.vertical.kernel * w.horizontal.kernel < Size.limit
        ∧ outputs * w.vertical.kernel * w.horizontal.kernel * inputs
          < Size.limit
        ∧ n = outputs * w.vertical.kernel * w.horizontal.kernel * inputs := by
  simp only [denseWeights?, Option.bind_eq_bind, Option.bind_eq_some_iff,
    Size.mul_eq_some_iff]
  constructor
  · intro hall
    obtain ⟨_, ⟨ha, rfl⟩, _, ⟨hb, rfl⟩, hc, rfl⟩ := hall
    exact ⟨ha, hb, hc, rfl⟩
  · intro hall
    obtain ⟨ha, hb, hc, rfl⟩ := hall
    exact ⟨_, ⟨ha, rfl⟩, _, ⟨hb, rfl⟩, hc, rfl⟩

-- ================================================================ dense

/-- A single cell that visits every pixel in place has as many places as
the image has pixels. -/
theorem places_of_isPointwise {w : Window} {height width : Nat}
    {places : Nat × Nat} (hw : isPointwise w = true)
    (h : w.Places height width places) :
    places = (height, width) := by
  simp only [isPointwise, Bool.and_eq_true, beq_iff_eq] at hw
  obtain ⟨⟨⟨⟨⟨hkv, hkh⟩, hsv⟩, hsh⟩, hpv⟩, hph⟩ := hw
  have hv := h.1.places_eq
  have hh := h.2.places_eq
  have hvi := h.1.input_pos
  have hhi := h.2.input_pos
  simp only [Axis.extent, hkv, hsv, hpv, Nat.div_one] at hv
  simp only [Axis.extent, hkh, hsh, hph, Nat.div_one] at hh
  refine Prod.ext ?_ ?_
  · show places.1 = height
    omega
  · show places.2 = width
    omega

/-- Every output value of a dense convolution exists. -/
theorem isSome_denseValue? {outputs oy ox o : Nat}
    (hinput : input.size = image.volume)
    (hweights : f.weights.size = outputs * f.window.vertical.kernel
      * f.window.horizontal.kernel * image.channels)
    (hbias : f.BiasCovers outputs) (ho : o < outputs) :
    (f.denseValue? input image backend (f.window.tapsAt image oy ox)
      o).isSome := by
  obtain ⟨start, hstart⟩ := hbias.exists_biasAt ho
  have hsum := isSome_foldlM (b := start)
    (f := fun acc (t : Tap) => do
      let cell := (o * f.window.vertical.kernel + t.row)
        * f.window.horizontal.kernel + t.column
      let pixel := (t.y * image.width + t.x) * image.channels
      let term ←
        Kernel.dotRun? backend input pixel f.weights (cell * image.channels)
          image.channels
      some (acc + term))
    (l := f.window.tapsAt image oy ox) (fun t ht acc => by
      obtain ⟨⟨hrow, hcolumn⟩, hy, hx⟩ := Window.bounds_of_mem_tapsAt ht
      have hpixel := Shape.pixel_le hy hx
      have hcell := run_le (n := image.channels)
        (rowMajor_lt (rowMajor_lt ho hrow) hcolumn)
      obtain ⟨term, hterm⟩ := Option.isSome_iff_exists.1
        (Kernel.isSome_dotRun? backend (hinput ▸ hpixel) (hweights ▸ hcell))
      simp [hterm])
  obtain ⟨total, htotal⟩ := Option.isSome_iff_exists.1 hsum
  simp only [denseValue?, hstart, Option.bind_eq_bind,
    Option.bind_some] at htotal ⊢
  rw [htotal]
  rfl

/-- Every output value of a pointwise convolution exists. -/
theorem isSome_pointwiseValue? {outputs positions p o : Nat}
    (hinput : input.size = positions * image.channels)
    (hweights : f.weights.size = outputs * image.channels)
    (hbias : f.BiasCovers outputs) (hp : p < positions) (ho : o < outputs) :
    (f.pointwiseValue? input image backend p o).isSome := by
  obtain ⟨start, hstart⟩ := hbias.exists_biasAt ho
  have hrow := run_le (n := image.channels) ho
  obtain ⟨term, hterm⟩ := Option.isSome_iff_exists.1
    (Kernel.isSome_dotRun? backend (hinput ▸ run_le hp) (hweights ▸ hrow))
  simp [pointwiseValue?, hstart, hterm]

/-- With as many positions in the output as in the input, neither side of the
pointwise path is the shorter one. -/
theorem pointwise?_eq_paint? {positions outputs : Nat} {out : Array Single}
    (hinput : input.size = positions * image.channels)
    (hinputs : 0 < image.channels) (houtputs : 0 < outputs)
    (hout : out.size = positions * outputs) :
    f.pointwise? input image backend outputs out
      = Kernel.paint? positions outputs some
        (f.pointwiseValue? input image backend) out := by
  rw [pointwise?, if_neg (by omega), hinput, hout, Nat.mul_div_cancel _ hinputs,
    Nat.mul_div_cancel _ houtputs, Nat.min_self]

/-- The pointwise path covers an output with as many positions as the
input. -/
theorem exists_pointwise? (backend : Backend) (positions outputs : Nat)
    (hinput : input.size = positions * image.channels)
    (hweights : f.weights.size = outputs * image.channels)
    (hbias : f.BiasCovers outputs) (hinputs : 0 < image.channels)
    (houtputs : 0 < outputs) :
    ∃ r : Array Single, r.size = positions * outputs ∧
      ∀ out : Array Single, out.size = positions * outputs →
        f.pointwise? input image backend outputs out = some r := by
  obtain ⟨r, hr, hpaint⟩ := Kernel.paint?_complete positions outputs some
    (f.pointwiseValue? input image backend) rfl
      (fun p hp => ⟨p, rfl, fun o ho =>
      isSome_pointwiseValue? hinput hweights hbias hp ho⟩)
  refine ⟨r, hr, fun out hout => ?_⟩
  rw [pointwise?_eq_paint? hinput hinputs houtputs hout]
  exact hpaint out hout

/-- The general path is a painting. -/
theorem dense?_eq_paint? (hbias : f.BiasCovers outShape.channels)
    (out : Array Single) :
    f.dense? input image backend outShape out
      = Kernel.paint? (outShape.height * outShape.width) outShape.channels
          (fun p => f.window.taps? image (p / outShape.width)
            (p % outShape.width))
          (f.denseValue? input image backend) out := by
  rw [dense?, if_neg (by simp [hbias.biasFits_eq_true])]

/-- The general path covers an output that has the places of the window. -/
theorem exists_dense? (backend : Backend) (hinput : input.size = image.volume)
    (hweights : f.weights.size = outShape.channels * f.window.vertical.kernel
      * f.window.horizontal.kernel * image.channels)
    (hbias : f.BiasCovers outShape.channels)
    (hplaces : f.window.Places image.height image.width
      (outShape.height, outShape.width)) :
    ∃ r : Array Single, r.size = outShape.volume ∧
      ∀ out : Array Single, out.size = outShape.volume →
        f.dense? input image backend outShape out = some r := by
  obtain ⟨r, hr, hpaint⟩ := Kernel.paint?_complete
    (outShape.height * outShape.width) outShape.channels
    (fun p => f.window.taps? image (p / outShape.width) (p % outShape.width))
    (f.denseValue? input image backend) rfl
    (fun p hp => ⟨_, hplaces.taps?_position hp, fun o ho =>
      isSome_denseValue? hinput hweights hbias ho⟩)
  refine ⟨r, hr, fun out hout => ?_⟩
  rw [dense?_eq_paint? hbias]
  exact hpaint out hout

/-- Past the checks of the lengths the window decides the way. -/
theorem convolve?_eq (hin : image.size? = some input.size)
    (hout : outShape.size? = some outShape.volume)
    (hweights : denseWeights? f.window image.channels outShape.channels
      = some f.weights.size)
    {out : Array Single} (hsize : out.size = outShape.volume) :
    f.convolve? input image outShape out backend
      = if isPointwise f.window then f.pointwise? input image backend
        outShape.channels out
        else f.dense? input image backend outShape out := by
  simp only [convolve?, hin, hout, hweights, Option.bind_eq_bind,
    Option.bind_some]
  rw [if_neg (by simp [hsize])]

/-- The pointwise path finds an output of as many positions as its input, and
a weight for each pair of channels. -/
theorem pointwise_lengths (hpoint : isPointwise f.window = true)
    (hinput : input.size = image.volume)
    (hcount : f.weights.size = outShape.channels * f.window.vertical.kernel
      * f.window.horizontal.kernel * image.channels)
    (hplaces : f.window.Places image.height image.width
      (outShape.height, outShape.width)) :
    input.size = outShape.height * outShape.width * image.channels
      ∧ f.weights.size = outShape.channels * image.channels := by
  obtain ⟨hheight, hwidth⟩ := Prod.mk.inj (places_of_isPointwise hpoint hplaces)
  simp only [isPointwise, Bool.and_eq_true, beq_iff_eq] at hpoint
  obtain ⟨⟨⟨⟨⟨hkv, hkh⟩, -⟩, -⟩, -⟩, -⟩ := hpoint
  rw [hkv, hkh, Nat.mul_one, Nat.mul_one] at hcount
  rw [hinput, hheight, hwidth]
  exact ⟨rfl, hcount⟩

/-- Convolving over any output of the right length gives one result. -/
theorem exists_convolve? (backend : Backend)
    (hin : image.size? = some input.size)
    (hout : outShape.size? = some outShape.volume)
    (hweights : denseWeights? f.window image.channels outShape.channels
      = some f.weights.size)
    (hbias : f.BiasCovers outShape.channels)
    (hplaces : f.window.Places image.height image.width
      (outShape.height, outShape.width))
    (hinputs : 0 < image.channels) (houtputs : 0 < outShape.channels) :
    ∃ r : Array Single, r.size = outShape.volume ∧
      ∀ out : Array Single, out.size = outShape.volume →
        f.convolve? input image outShape out backend = some r := by
  have hinput : input.size = image.volume :=
    (Shape.size?_eq_some_iff.1 hin).2.2.symm
  have hcount := (denseWeights?_eq_some_iff.1 hweights).2.2.2
  by_cases hpoint : isPointwise f.window = true
  · obtain ⟨hsame, hpairs⟩ := pointwise_lengths hpoint hinput hcount hplaces
    obtain ⟨r, hr, hpaint⟩ := exists_pointwise? backend
      (outShape.height * outShape.width) outShape.channels hsame hpairs hbias
        hinputs houtputs
    refine ⟨r, hr, fun out hsize => ?_⟩
    rw [convolve?_eq hin hout hweights hsize, if_pos hpoint]
    exact hpaint out hsize
  · obtain ⟨r, hr, hpaint⟩ := exists_dense? backend hinput hcount hbias hplaces
    refine ⟨r, hr, fun out hsize => ?_⟩
    rw [convolve?_eq hin hout hweights hsize, if_neg hpoint]
    exact hpaint out hsize

-- ========================================================== per channel

/-- Every output value of a per-channel convolution exists. -/
theorem isSome_depthwiseValue? {oy ox channel : Nat}
    (hinput : input.size = image.volume)
    (hweights : f.weights.size = image.channels
      * (f.window.vertical.kernel * f.window.horizontal.kernel))
    (hbias : f.BiasCovers image.channels)
    (hchannel : channel < image.channels) :
    (f.depthwiseValue? input image
      (f.window.vertical.kernel * f.window.horizontal.kernel)
      (f.window.tapsAt image oy ox) channel).isSome := by
  obtain ⟨start, hstart⟩ := hbias.exists_biasAt hchannel
  have hsum := isSome_foldlM (b := start)
    (f := fun acc (t : Tap) => do
      let v ← input[(t.y * image.width + t.x) * image.channels + channel]?
      let w ←
        f.weights[channel
          * (f.window.vertical.kernel * f.window.horizontal.kernel)
        + (t.row * f.window.horizontal.kernel + t.column)]?
      some (acc + v * w))
    (l := f.window.tapsAt image oy ox) (fun t ht acc => by
      obtain ⟨⟨hrow, hcolumn⟩, hy, hx⟩ := Window.bounds_of_mem_tapsAt ht
      have hpixel := Shape.pixel_le hy hx
      have hcell := rowMajor_lt hchannel (rowMajor_lt hrow hcolumn)
      rw [Array.getElem?_eq_getElem (by omega),
        Array.getElem?_eq_getElem (by rw [hweights]; exact hcell)]
      rfl)
  obtain ⟨total, htotal⟩ := Option.isSome_iff_exists.1 hsum
  simp only [depthwiseValue?, hstart, Option.bind_eq_bind,
    Option.bind_some] at htotal ⊢
  rw [htotal]
  rfl

/-- Past the checks of the lengths it is a painting. -/
theorem depthwise?_eq_paint? {cells : Nat}
    (hcells : Size.mul f.window.vertical.kernel f.window.horizontal.kernel
      = some cells)
    (hweights : Size.mul image.channels cells = some f.weights.size)
    (hbias : f.BiasCovers image.channels)
    (hchannels : image.channels = outShape.channels) (out : Array Single) :
    f.depthwise? input image outShape out
      = Kernel.paint? (outShape.height * outShape.width) image.channels
        (fun p => do
          let taps ←
            f.window.taps? image (p / outShape.width) (p % outShape.width)
          if taps.all fun t =>
              (t.y * image.width + t.x) * image.channels + image.channels
                ≤ input.size then
            some taps
          else none) (f.depthwiseValue? input image cells) out := by
  simp only [depthwise?, hcells, hweights, Option.bind_eq_bind,
    Option.bind_some]
  rw [if_neg (by simp [hchannels]), if_neg (by simp [hbias.biasFits_eq_true])]

/-- Convolving channel by channel over any output of the right length gives
one result. -/
theorem exists_depthwise? {cells : Nat} (hinput : input.size = image.volume)
    (hcells : Size.mul f.window.vertical.kernel f.window.horizontal.kernel
      = some cells)
    (hweights : Size.mul image.channels cells = some f.weights.size)
    (hbias : f.BiasCovers image.channels)
    (hplaces : f.window.Places image.height image.width
      (outShape.height, outShape.width))
    (hchannels : image.channels = outShape.channels) :
    ∃ r : Array Single, r.size = outShape.volume ∧
      ∀ out : Array Single, out.size = outShape.volume →
        f.depthwise? input image outShape out = some r := by
  have hpaint : ∀ out, f.depthwise? input image outShape out = _ :=
    depthwise?_eq_paint? hcells hweights hbias hchannels
  obtain ⟨-, rfl⟩ := Size.mul_eq_some_iff.1 hcells
  have hcount := (Size.mul_eq_some_iff.1 hweights).2.symm
  obtain ⟨r, hr, hcomplete⟩ := Kernel.paint?_complete
    (outShape.height * outShape.width) image.channels _ _ (by rw [hchannels])
    (fun p hp => ⟨_, hplaces.pixelTaps?_position hinput hp, fun c hc =>
      isSome_depthwiseValue? hinput hcount hbias hc⟩)
  exact ⟨r, hr, fun out hsize => (hpaint out).trans (hcomplete out hsize)⟩

end Filter

end FireNet
