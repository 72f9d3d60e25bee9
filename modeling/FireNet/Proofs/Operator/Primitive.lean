/-
Primitives: what their checks promise. An action that passed its check
computes a result over every sound input and every output of the right
length, on every backend, and the result does not depend on what the output
held (`exists_over?`). So a bound primitive, run on any arena that covers the
one it was bound in, succeeds and leaves that result in its output, and
nothing else changes (`Primitive.forward_eq_ok`).
-/
import FireNet.Proofs.Dataflow
import FireNet.Proofs.Kernel.Pooling

set_option autoImplicit false

namespace FireNet

-- =============================================================== checks

namespace Check

variable {op : String} {u : Unit}

@[simp] theorem channels_eq_ok_iff {port : Port} {shape : Shape}
    {expected : Nat} :
    channels op port shape expected = .ok u
      ↔ 0 < expected ∧ shape.channels = expected := by
  unfold channels
  by_cases h : expected = 0 ∨ shape.channels = 0
  · rw [if_pos h, Outcome.refuse_ne_ok, false_iff]
    omega
  · rw [if_neg h, Outcome.lastGuard_eq_ok_iff]
    omega

/-- The window check gives the places that the window has. -/
@[simp] theorem windowOutput_eq_ok_iff {window : Window} {input : Shape}
    {places : Nat × Nat} :
    windowOutput op window input = .ok places
      ↔ window.Places input.height input.width places := by
  rw [windowOutput, Outcome.bind_eq_ok_iff, ← Window.output?_eq_some_some_iff]
  constructor
  · intro hall
    obtain ⟨o, ho, h⟩ := hall
    rw [Outcome.ofOption_eq_ok_iff] at ho
    cases o with
    | none => simp at h
    | some extent =>
        rw [Outcome.pure_eq_ok_iff] at h
        rw [ho, h]
  · intro h
    exact ⟨some places, Outcome.ofOption_eq_ok_iff.2 h, rfl⟩

@[simp] theorem extent_eq_ok_iff {computed : Nat × Nat} {output : Shape} :
    extent op computed output = .ok u
      ↔ computed = (output.height, output.width) := by
  unfold extent
  by_cases h : computed = (output.height, output.width)
  · simp [h]
  · simp [h]

/-- The count check holds for the right counts. -/
@[simp] theorem parameterCounts_eq_ok_iff {layer : Layer} {weights : Nat} :
    parameterCounts op layer weights = .ok u
      ↔ layer.weights.size = weights
        ∧ layer.filter.BiasCovers layer.outputs := by
  unfold parameterCounts Filter.BiasCovers Layer.filter
  rw [Outcome.guard_eq_ok_iff, ne_eq, Decidable.not_not]
  cases layer.bias with
  | none => simp
  | some bias =>
      show _ ∧ (if bias.size ≠ layer.outputs then _ else _) = _ ↔ _
      rw [Outcome.lastGuard_eq_ok_iff]
      simp

@[simp] theorem undilated_eq_ok_iff {window : Window} :
    undilated op window = .ok u
      ↔ window.vertical.dilation = 1 ∧ window.horizontal.dilation = 1 := by
  unfold undilated
  rw [Outcome.lastGuard_eq_ok_iff]
  omega

end Check

namespace Action

variable {op : String} {image outShape : Shape} {layer : Layer}

/-- All that is asked of a dense convolution. -/
theorem check_convolution_eq_ok_iff {u : Unit} :
    (convolution layer).check op image outShape = .ok u ↔
      (0 < layer.inputs ∧ image.channels = layer.inputs)
        ∧ (0 < layer.outputs ∧ outShape.channels = layer.outputs)
        ∧ (layer.window.vertical.dilation = 1
          ∧ layer.window.horizontal.dilation = 1)
        ∧ layer.window.Places image.height image.width
          (outShape.height, outShape.width)
        ∧ Filter.denseWeights? layer.window layer.inputs layer.outputs
          = some layer.weights.size
        ∧ layer.filter.BiasCovers layer.outputs := by
  simp only [check, Outcome.bind_eq_ok_iff, Check.channels_eq_ok_iff,
    Check.undilated_eq_ok_iff, Check.windowOutput_eq_ok_iff,
    Check.extent_eq_ok_iff,
    Outcome.ofOption_eq_ok_iff, Check.parameterCounts_eq_ok_iff]
  constructor
  · intro hall
    obtain ⟨_, hin, _, hout, _, hdilation, _, hplaces, _, rfl, _, hweights, rfl,
      hbias⟩ := hall
    exact ⟨hin, hout, hdilation, hplaces, hweights, hbias⟩
  · intro hall
    obtain ⟨hin, hout, hdilation, hplaces, hweights, hbias⟩ := hall
    exact ⟨(), hin, (), hout, (), hdilation, _, hplaces, (), rfl, _,
      hweights, rfl, hbias⟩

/-- All that is asked of a convolution by channel. -/
theorem check_depthwise_eq_ok_iff {u : Unit} :
    (depthwise layer).check op image outShape = .ok u ↔
      layer.inputs = layer.outputs
        ∧ (0 < layer.inputs ∧ image.channels = layer.inputs)
        ∧ (0 < layer.outputs ∧ outShape.channels = layer.outputs)
        ∧ (layer.window.vertical.dilation = 1
          ∧ layer.window.horizontal.dilation = 1)
        ∧ layer.window.Places image.height image.width
          (outShape.height, outShape.width)
        ∧ (∃ a, Size.mul layer.outputs layer.window.vertical.kernel = some a
          ∧ Size.mul a layer.window.horizontal.kernel = some layer.weights.size)
        ∧ layer.filter.BiasCovers layer.outputs := by
  simp only [check, Outcome.guard_eq_ok_iff, Outcome.bind_eq_ok_iff,
    Check.channels_eq_ok_iff, Check.undilated_eq_ok_iff,
    Check.windowOutput_eq_ok_iff, Check.extent_eq_ok_iff,
    Outcome.ofOption_eq_ok_iff, Check.parameterCounts_eq_ok_iff,
    Option.bind_eq_bind, Option.bind_eq_some_iff, ne_eq, Decidable.not_not]
  constructor
  · intro hall
    obtain ⟨heven, _, hin, _, hout, _, hdilation, _, hplaces, _, rfl, _,
      hweights, rfl, hbias⟩ := hall
    exact ⟨heven, hin, hout, hdilation, hplaces, hweights, hbias⟩
  · intro hall
    obtain ⟨heven, hin, hout, hdilation, hplaces, hweights, hbias⟩ := hall
    exact ⟨heven, (), hin, (), hout, (), hdilation, _, hplaces, (), rfl, _,
      hweights, rfl, hbias⟩

/-- All that is asked of a max pooling. -/
theorem check_maxPool_eq_ok_iff {w : Window} {u : Unit} :
    (maxPool w).check op image outShape = .ok u ↔
      (0 < image.channels ∧ outShape.channels = image.channels)
        ∧ w.Places image.height image.width (outShape.height, outShape.width)
        ∧ w.vertical.padding < w.vertical.extent
        ∧ w.horizontal.padding < w.horizontal.extent := by
  simp only [check, Outcome.guard_eq_ok_iff, Outcome.bind_eq_ok_iff,
    Check.channels_eq_ok_iff, Check.windowOutput_eq_ok_iff,
    Check.extent_eq_ok_iff,
    Outcome.ofOption_eq_ok_iff, Window.extents?_eq_some_iff]
  constructor
  · intro hall
    obtain ⟨_, hchannels, _, hplaces, _, ⟨-, -, rfl⟩, hcover, rfl⟩ := hall
    exact ⟨hchannels, hplaces, by omega, by omega⟩
  · intro hall
    obtain ⟨hchannels, hplaces, hv, hh⟩ := hall
    exact ⟨(), hchannels, _, hplaces, _,
      ⟨Nat.lt_of_le_of_lt hplaces.1.extent_le hplaces.1.padded_lt,
        Nat.lt_of_le_of_lt hplaces.2.extent_le hplaces.2.padded_lt, rfl⟩,
      by omega, rfl⟩

/-- All that is asked of a mean. -/
theorem check_meanPool_eq_ok_iff {u : Unit} :
    meanPool.check op image outShape = .ok u ↔
      (∃ positions, image.positions? = some positions ∧ 0 < positions)
        ∧ (0 < image.channels ∧ outShape.channels = image.channels)
        ∧ outShape.height = 1 ∧ outShape.width = 1 := by
  simp only [check, Outcome.guard_eq_ok_iff, Outcome.bind_eq_ok_iff,
    Check.channels_eq_ok_iff, Check.extent_eq_ok_iff,
    Outcome.ofOption_eq_ok_iff, Prod.mk.injEq]
  constructor
  · intro hall
    obtain ⟨positions, hpositions, hpos, _, hchannels, hheight, hwidth⟩ := hall
    exact ⟨⟨positions, hpositions, by omega⟩, hchannels, hheight.symm,
      hwidth.symm⟩
  · intro hall
    obtain ⟨⟨positions, hpositions, hpos⟩, hchannels, hheight, hwidth⟩ := hall
    exact ⟨positions, hpositions, by
      omega, (), hchannels, hheight.symm, hwidth.symm⟩

/-- All that is asked of a fully connected layer. -/
theorem check_fullyConnected_eq_ok_iff {u : Unit} :
    (fullyConnected layer).check op image outShape = .ok u ↔
      0 < layer.inputs ∧ image.size? = some layer.inputs
        ∧ outShape.size? = some layer.outputs
        ∧ Size.mul layer.outputs layer.inputs = some layer.weights.size
        ∧ layer.filter.BiasCovers layer.outputs := by
  simp only [check, Outcome.guard_eq_ok_iff, Outcome.bind_eq_ok_iff,
    Outcome.ofOption_eq_ok_iff, Check.parameterCounts_eq_ok_iff, ne_eq,
    Decidable.not_not]
  constructor
  · intro hall
    obtain ⟨hpos, _, hin, rfl, _, hout, rfl, _, hweights, rfl, hbias⟩ := hall
    exact ⟨by omega, hin, hout, hweights, hbias⟩
  · intro hall
    obtain ⟨hpos, hin, hout, hweights, hbias⟩ := hall
    exact ⟨by omega, _, hin, rfl, _, hout, rfl, _, hweights, rfl, hbias⟩

/-- The weights of a checked depthwise convolution are one kernel for each
channel of the image. -/
theorem weights_of_check_depthwise {u : Unit}
    (h : (depthwise layer).check op image outShape = .ok u) :
    ∃ cells, Size.mul layer.window.vertical.kernel
      layer.window.horizontal.kernel = some cells
      ∧ Size.mul image.channels cells = some layer.weights.size := by
  obtain ⟨heven, hin, -, -, -, ⟨a, ha, hweights⟩, -⟩ :=
    check_depthwise_eq_ok_iff.1 h
  obtain ⟨-, rfl⟩ := Size.mul_eq_some_iff.1 ha
  obtain ⟨hlt, hcount⟩ := Size.mul_eq_some_iff.1 hweights
  have hassoc := Nat.mul_assoc layer.outputs layer.window.vertical.kernel
    layer.window.horizontal.kernel
  have hchannels : image.channels = layer.outputs := hin.2.trans heven
  rw [← hchannels] at hassoc hlt hcount
  have hcells : layer.window.vertical.kernel * layer.window.horizontal.kernel
      ≤ image.channels
        * (layer.window.vertical.kernel * layer.window.horizontal.kernel) :=
    Nat.le_mul_of_pos_left _ (by omega)
  exact ⟨_, Size.mul_eq_some_iff.2 ⟨by omega, rfl⟩,
    Size.mul_eq_some_iff.2 ⟨by omega, hassoc.symm.trans hcount⟩⟩

-- ============================================================== results

/-- A checked action has one result over every output of the right length.
Whatever the output held, it is written completely. -/
theorem exists_compute? (backend : Backend) {a : Action} {x : Tensor Single}
    (hx : x.Sound) (hout : outShape.size? = some outShape.volume)
    (hcheck : a.check op x.shape outShape = .ok ()) :
    ∃ r : Array Single, r.size = outShape.volume ∧
      ∀ out : Array Single, out.size = outShape.volume →
        a.compute? backend x.data x.shape outShape out = some r := by
  cases a with
  | convolution layer =>
      obtain ⟨hin, houtputs, -, hplaces, hweights, hbias⟩ :=
        check_convolution_eq_ok_iff.1 hcheck
      rw [← hin.2, ← houtputs.2] at hweights
      rw [← houtputs.2] at hbias
      exact Filter.exists_convolve? backend hx hout hweights hbias hplaces
        (by omega) (by omega)
  | depthwise layer =>
      obtain ⟨heven, hin, houtputs, -, hplaces, -, hbias⟩ :=
        check_depthwise_eq_ok_iff.1 hcheck
      obtain ⟨cells, hcells, hweights⟩ := weights_of_check_depthwise hcheck
      have hchannels : x.shape.channels = layer.outputs := hin.2.trans heven
      rw [← hchannels] at hbias
      exact Filter.exists_depthwise? (f := layer.filter) hx.size_eq hcells
        hweights hbias hplaces (hchannels.trans houtputs.2.symm)
  | maxPool w =>
      obtain ⟨hchannels, hplaces, -⟩ := check_maxPool_eq_ok_iff.1 hcheck
      exact Kernel.exists_maxPool? hx.size_eq hplaces hchannels.2
  | meanPool =>
      obtain ⟨⟨positions, hpositions, -⟩, hchannels, hheight, hwidth⟩ :=
        check_meanPool_eq_ok_iff.1 hcheck
      have hvolume : outShape.volume = x.shape.channels := by
        rw [Shape.volume, hheight, hwidth, Nat.one_mul, hchannels.2]
      rw [hvolume]
      exact Kernel.exists_meanPool? hpositions hchannels.1
  | fullyConnected layer =>
      obtain ⟨hpos, hin, houtputs, hweights, hbias⟩ :=
        check_fullyConnected_eq_ok_iff.1 hcheck
      have hinputs : layer.inputs = x.data.size := by
        rw [hx] at hin
        exact (Option.some.inj hin).symm
      rw [hout] at houtputs
      rw [← Option.some.inj houtputs] at hweights hbias
      rw [hinputs] at hweights hpos
      exact Kernel.exists_affine? backend hweights hbias hpos

/-- The same, with the result as the tensor that the action gives. -/
theorem exists_over? (backend : Backend) {a : Action} {x : Tensor Single}
    (hx : x.Sound) (hout : outShape.size? = some outShape.volume)
    (hcheck : a.check op x.shape outShape = .ok ()) :
    ∃ y : Tensor Single,
      a.over? backend outShape x = some y ∧ y.shape = outShape ∧ y.Sound ∧
      ∀ out : Array Single, out.size = outShape.volume →
        a.compute? backend x.data x.shape outShape out = some y.data := by
  obtain ⟨r, hsize, hcompute⟩ := exists_compute? backend hx hout hcheck
  have hblank : (Tensor.blank outShape).data.size = outShape.volume :=
    Array.size_replicate
  refine ⟨⟨outShape, r⟩, ?_, rfl, ?_, hcompute⟩
  · rw [over?, hcompute _ hblank]
    rfl
  · show outShape.size? = some r.size
    rw [hsize, hout]

end Action

-- ============================================================ operators

namespace Primitive

variable {p : Primitive} {a : Arena} {x old : Tensor Single}

/-- A bound primitive puts its result on the backend of its handle in its
output; all else stays. -/
theorem forward_eq_ok
    (hcheck : p.action.check p.name p.inShape p.outShape = .ok ())
    (hx : a.tensor? p.input = some x) (hxs : x.Sound)
    (hin : x.shape = p.inShape) (hold : a.tensor? p.output = some old)
    (holds : old.Sound) (hout : old.shape = p.outShape)
    (hne : p.input ≠ p.output) :
    ∃ y : Tensor Single, p.action.over? p.handle.backend p.outShape x = some y
      ∧ y.shape = p.outShape ∧ y.Sound
      ∧ p.forward a = .ok () (a.put p.output y) := by
  rw [← hin, ← hout] at hcheck
  obtain ⟨y, hover, hshape, hys, hcompute⟩ :=
    Action.exists_over? p.handle.backend hxs holds.size?_eq hcheck
  refine ⟨y, by rw [← hout]; exact hover, hshape.trans hout, hys, ?_⟩
  have hfill : (a.put p.output Tensor.empty).data? p.input = some x.data :=
    (Arena.data?_put_of_ne hne).trans (Arena.data?_of_tensor? hx)
  have hrun := Arena.withOutput_eq_ok (fun arena out => do
      let input ← arena.data? p.input
      let data ←
        p.action.compute? p.handle.backend input p.inShape p.outShape out
      some ((), data)) () y.data hold (by
    rw [hfill, Option.bind_eq_bind, Option.bind_some, ← hin, ← hout,
      hcompute _ holds.size_eq]
    rfl)
  rw [← hshape] at hrun
  simp only [forward, Step.bind_eq_ok_iff]
  exact ⟨(), a, hin ▸ Arena.checkBound_eq_ok hx hxs, (), a,
    hout ▸ Arena.checkBound_eq_ok hold holds, hrun⟩

end Primitive

end FireNet
