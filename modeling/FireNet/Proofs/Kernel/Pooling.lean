/-
Pooling and the fully connected layer come out, over any output of the
right length, and end the same whatever the output held.
-/
import FireNet.Kernel.Affine
import FireNet.Kernel.Pooling
import FireNet.Proofs.Kernel.Filter

set_option autoImplicit false

namespace FireNet.Kernel

variable {input : Array Single} {image outShape : Shape}

-- ============================================================== maximum

/-- Every maximum exists. -/
theorem isSome_maxValue? {w : Window} {oy ox channel : Nat}
    (hinput : input.size = image.volume) (hchannel : channel < image.channels) :
    (maxValue? input image (w.tapsAt image oy ox) channel).isSome := by
  refine isSome_foldlM fun t ht acc => ?_
  obtain ⟨-, hy, hx⟩ := Window.bounds_of_mem_tapsAt ht
  have hpixel := Shape.pixel_le hy hx
  rw [Array.getElem?_eq_getElem (by omega)]
  rfl

/-- Max pooling over any output of the right length gives one result. -/
theorem exists_maxPool? {w : Window} (hinput : input.size = image.volume)
    (hplaces : w.Places image.height image.width
      (outShape.height, outShape.width))
    (hchannels : outShape.channels = image.channels) :
    ∃ r : Array Single, r.size = outShape.volume ∧
      ∀ out : Array Single, out.size = outShape.volume →
        maxPool? w input image outShape out = some r :=
  paint?_complete _ _ _ _ (by rw [← hchannels]; rfl) fun _ hp =>
    ⟨_, hplaces.pixelTaps?_position hinput hp,
      fun _ hc => isSome_maxValue? hinput hc⟩

-- ================================================================= mean

/-- The mean over any output of one value a channel gives one result. -/
theorem exists_meanPool? {positions : Nat}
    (hpositions : image.positions? = some positions)
    (hchannels : 0 < image.channels) :
    ∃ r : Array Single, r.size = image.channels ∧
      ∀ out : Array Single, out.size = image.channels →
        meanPool? input image out = some r := by
  obtain ⟨r, hr, hpaint⟩ := paint?_complete 1 image.channels some
    (fun _ channel =>
      some (channelSum input image.channels channel
        (input.size / image.channels) 0
        Single.zero * (Single.one / Single.ofSize positions)))
    (Nat.one_mul _) (fun p _ => ⟨p, rfl, fun _ _ => rfl⟩)
  refine ⟨r, hr, fun out hout => ?_⟩
  simp only [meanPool?, hpositions, Option.bind_eq_bind, Option.bind_some]
  rw [if_neg (by omega)]
  exact hpaint out hout

-- ============================================================== affine

/-- Every value of a fully connected layer exists. -/
theorem isSome_affineValue? {weights : Array Single}
    {bias : Option (Array Single)} {activation : Activation} {backend : Backend}
    {outputs o : Nat} (hweights : weights.size = outputs * input.size)
    (hbias : ∀ values, bias = some values → values.size = outputs)
    (ho : o < outputs) :
    (affineValue? weights bias activation input backend o).isSome := by
  have hrow := run_le (n := input.size) ho
  obtain ⟨term, hterm⟩ := Option.isSome_iff_exists.1
    (isSome_dotRun? backend (a := weights) (b := input)
      (i := o * input.size) (j := 0) (n := input.size) (by omega) (by omega))
  cases bias with
  | none => simp [affineValue?, hterm]
  | some values =>
      have hlt : o < values.size := by
        rw [hbias values rfl]
        exact ho
      simp [affineValue?, hterm, Array.getElem?_eq_getElem hlt]

/-- A fully connected layer over any output of the right length gives one
result. -/
theorem exists_affine? {weights : Array Single} {bias : Option (Array Single)}
    {activation : Activation} (backend : Backend) {outputs : Nat}
    (hweights : Size.mul outputs input.size = some weights.size)
    (hbias : ∀ values, bias = some values → values.size = outputs)
    (hinput : 0 < input.size) :
    ∃ r : Array Single, r.size = outputs ∧
      ∀ out : Array Single, out.size = outputs →
        affine? weights bias activation input out backend = some r := by
  have hcount := (Size.mul_eq_some_iff.1 hweights).2.symm
  obtain ⟨r, hr, hpaint⟩ := paint?_complete outputs 1 some
    (fun o _ => affineValue? weights bias activation input backend o)
    (Nat.mul_one _) (fun p hp => ⟨p, rfl, fun _ _ =>
      isSome_affineValue? hcount hbias hp⟩)
  refine ⟨r, hr, fun out hout => ?_⟩
  have hmul : Size.mul input.size out.size = some weights.size := by
    rw [hout, Size.mul, Nat.mul_comm]
    exact hweights
  simp only [affine?, hmul, Option.bind_eq_bind, Option.bind_some]
  rw [if_neg (by omega), hout]
  exact hpaint out hout

end FireNet.Kernel
