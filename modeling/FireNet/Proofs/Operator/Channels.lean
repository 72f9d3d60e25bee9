/-
Splitting and interleaving, as functions of whole tensors. A checked split
leaves the two channel halves of its input in its outputs, a checked
interleave the merger of its inputs in its output; neither touches another
tensor.

Both kernels walk pixels and write the cells of each in turn, so the new
content of an output is known cell by cell (`Kernel.paint?_eq_some`). The
lengths that this takes follow from the checks and from soundness alone.
That the output is no input is checked for an interleave alone; the outputs
of a split have fewer channels than its input, so they are other tensors.
-/
import FireNet.Proofs.Dataflow
import FireNet.Proofs.Kernel.Paint
import FireNet.Proofs.Window

set_option autoImplicit false

namespace FireNet

/-- A buffer whose cells are known is the list of them. -/
theorem eq_map_range_of_getElem? {α : Type} {r : Array α} {n : Nat}
    {f : Nat → α} (hsize : r.size = n) (hcell : ∀ i < n, r[i]? = some (f i)) :
    r = (Array.range n).map f := by
  refine Array.ext_getElem? fun i => ?_
  by_cases hi : i < n
  · rw [hcell i hi, Array.getElem?_map, Array.getElem?_range, if_pos hi]
    rfl
  · rw [Array.getElem?_eq_none (by omega),
      Array.getElem?_eq_none (by simp; omega)]

theorem getElem?_eq_some_getD {a : Array Single} {i : Nat} (h : i < a.size) :
    a[i]? = some (a.getD i Single.zero) := by
  rw [Array.getElem?_eq_getElem h, Array.getD_eq_getD_getElem?,
    Array.getElem?_eq_getElem h]
  rfl

-- ================================================================ split

/-- Half of the channels is a sound tensor where there is one of its shape. -/
theorem Tensor.channelHalf_sound {x t : Tensor Single} {half : Shape}
    (start : Nat) (hhalf : half = x.shape.withChannels (x.shape.channels / 2))
    (ht : t.Sound) (hshape : t.shape = half) :
    (x.channelHalf start).shape = half ∧ (x.channelHalf start).Sound := by
  have hs : (x.channelHalf start).shape = half := hhalf.symm
  refine ⟨hs, ?_⟩
  show (x.channelHalf start).shape.size? = some _
  rw [hs, ← hshape, ht.size?_eq, hshape, hhalf, channelHalf]
  simp

namespace Split

variable {op : String} {input first second : Shape}

/-- All that is asked of a split. -/
theorem check_eq_ok_iff {same : Bool} {u : Unit} :
    check op input first second same = .ok u ↔
      (0 < input.channels ∧ input.channels % 2 = 0) ∧ first = second
        ∧ (first.channels + second.channels < Size.limit
          ∧ first.channels + second.channels = input.channels)
        ∧ (first.height = input.height ∧ first.width = input.width)
        ∧ same = false := by
  simp only [check, Outcome.guard_eq_ok_iff, Outcome.lastGuard_eq_ok_iff,
    Outcome.bind_eq_ok_iff, Outcome.ofOption_eq_ok_iff, Size.add_eq_some_iff,
    ne_eq, Decidable.not_not, Prod.mk.injEq, Bool.not_eq_true]
  constructor
  · intro hall
    obtain ⟨heven, heq, _, ⟨hlt, rfl⟩, hsum, hextent, hsame⟩ := hall
    exact ⟨by omega, heq, ⟨hlt, hsum⟩, hextent, hsame⟩
  · intro hall
    obtain ⟨heven, heq, ⟨hlt, hsum⟩, hextent, hsame⟩ := hall
    exact ⟨by omega, heq, _, ⟨hlt, rfl⟩, hsum, hextent, hsame⟩

/-- Taking the channels from `start` on, over any output of the right
length. -/
theorem take?_eq_some {x : Tensor Single} {half start pixels : Nat}
    {out : Array Single} (hx : x.data.size = pixels * (2 * half))
    (hstart : start + half ≤ 2 * half) (hout : out.size = pixels * half) :
    take? x.data half start pixels out
      = some ((Array.range (pixels * half)).map fun i =>
      x.data.getD (i / half * (2 * half) + (start + i % half))
        Single.zero) := by
  have hread : ∀ p < pixels, ∀ c < half,
      p * (2 * half) + (start + c) < x.data.size := by
    intro p hp c hc
    have := run_le (n := 2 * half) hp
    omega
  obtain ⟨r, hr, hsize, hcell⟩ := Kernel.paint?_eq_some pixels half some
    (fun p c => x.data[p * (2 * half) + (start + c)]?) out
    (by omega) (fun p hp => ⟨p, rfl, fun c hc => by
      rw [Array.getElem?_eq_getElem (hread p hp c hc)]
      rfl⟩)
  rw [take?, hr, eq_map_range_of_getElem? (hsize.trans hout) fun i hi => ?_]
  have hpos : 0 < half := Nat.pos_of_lt_mul_left hi
  rw [hcell, if_pos hi]
  exact getElem?_eq_some_getD
    (hread _ ((Nat.div_lt_iff_lt_mul hpos).2 hi) _ (Nat.mod_lt i hpos))

variable {s : Split} {a : Arena} {x t u : Tensor Single}

/-- The shape of the outputs of a checked split. -/
theorem half_of_check {half : Shape} {same : Bool}
    (h : check op input half half same = .ok ()) :
    half = input.withChannels (input.channels / 2) ∧ 0 < half.channels
      ∧ input.channels = 2 * half.channels := by
  obtain ⟨⟨hpos, heven⟩, -, ⟨-, hsum⟩, ⟨hheight, hwidth⟩, -⟩ :=
    check_eq_ok_iff.1 h
  refine ⟨?_, by omega, by omega⟩
  cases half with
  | mk height width channels =>
      simp only [Shape.withChannels, Shape.mk.injEq]
      simp only at hsum hheight hwidth
      omega

/-- All pixels are copied when the buffers have as many. -/
theorem pixels_eq {half pixels : Nat} (hhalf : 0 < half) :
    min (pixels * (2 * half) / (2 * half))
      (min (pixels * half / half) (pixels * half / half))
      = pixels := by
  rw [Nat.mul_div_cancel _ (by omega), Nat.mul_div_cancel _ hhalf, Nat.min_self,
    Nat.min_self]

/-- A bound split puts the halves of its input in its outputs; all else
stays. -/
theorem forward_eq_ok
    (hcheck : check s.name s.inShape s.halfShape s.halfShape
      (s.first == s.second) = .ok ())
    (hx : a.tensor? s.input = some x) (hxs : x.Sound)
    (hin : x.shape = s.inShape) (ht : a.tensor? s.first = some t)
    (hts : t.Sound) (htshape : t.shape = s.halfShape)
    (hu : a.tensor? s.second = some u) (hus : u.Sound)
    (hushape : u.shape = s.halfShape) :
    s.halfShape = x.shape.withChannels (x.shape.channels / 2) ∧
      s.forward a = .ok ()
        ((a.put s.first x.firstHalf).put s.second x.secondHalf) := by
  obtain ⟨-, -, -, -, hsame⟩ := check_eq_ok_iff.1 hcheck
  rw [beq_eq_false_iff_ne] at hsame
  obtain ⟨hhalf, hpos, hchannels⟩ := half_of_check hcheck
  rw [← hin] at hhalf hchannels
  -- a half has fewer channels than the whole, so it is another tensor
  have hother {id : TensorId} {v : Tensor Single} (hv : a.tensor? id = some v)
      (hvshape : v.shape = s.halfShape) : s.input ≠ id := by
    intro heq
    rw [heq, hv, Option.some.injEq] at hx
    rw [← hx, hvshape] at hchannels
    omega
  have hpixels : x.data.size
      = x.shape.height * x.shape.width * (2 * s.halfShape.channels) := by
    rw [hxs.size_eq, Shape.volume, hchannels]
  have hvolume : s.halfShape.volume
      = x.shape.height * x.shape.width * s.halfShape.channels := by
    rw [Shape.volume, hhalf]
    rfl
  have htsize : t.data.size = x.shape.height * x.shape.width
      * s.halfShape.channels := by
    rw [hts.size_eq, htshape, hvolume]
  have husize : u.data.size = x.shape.height * x.shape.width
      * s.halfShape.channels := by
    rw [hus.size_eq, hushape, hvolume]
  have hdata : ((a.put s.first Tensor.empty).put s.second
    Tensor.empty).data? s.input
      = some x.data := by
    rw [Arena.data?_put_of_ne (hother hu hushape),
      Arena.data?_put_of_ne (hother ht htshape)]
    exact Arena.data?_of_tensor? hx
  have hdouble : s.halfShape.channels = x.shape.channels / 2 := by omega
  have hrun := Arena.withOutputs_eq_ok (fun arena a b => do
      let input ← arena.data? s.input
      if s.halfShape.channels = 0 then none
      else
        let pixels := min (input.size / (2 * s.halfShape.channels))
          (min (a.size / s.halfShape.channels) (b.size / s.halfShape.channels))
        let a ← take? input s.halfShape.channels 0 pixels a
        let b ← take? input s.halfShape.channels s.halfShape.channels pixels b
        some ((), a, b)) () x.firstHalf.data x.secondHalf.data hsame ht hu (by
    simp only [hdata, Option.bind_eq_bind, Option.bind_some]
    rw [if_neg (Nat.ne_of_gt hpos), hpixels, htsize, husize, pixels_eq hpos,
      take?_eq_some hpixels (by omega) htsize,
      take?_eq_some hpixels (by omega) husize]
    simp only [Option.bind_some]
    rw [Tensor.firstHalf, Tensor.secondHalf, Tensor.channelHalf,
      Tensor.channelHalf, hdouble]
    rfl)
  have hfirstEq :
      (⟨t.shape, x.firstHalf.data⟩ : Tensor Single) = x.firstHalf := by
    rw [htshape, hhalf]
    rfl
  have hsecondEq :
      (⟨u.shape, x.secondHalf.data⟩ : Tensor Single) = x.secondHalf := by
    rw [hushape, hhalf]
    rfl
  rw [hfirstEq, hsecondEq] at hrun
  refine ⟨hhalf, ?_⟩
  simp only [forward, Step.bind_eq_ok_iff]
  exact ⟨(), a, hin ▸ Arena.checkBound_eq_ok hx hxs, (), a,
    htshape ▸ Arena.checkBound_eq_ok ht hts, (), a,
    hushape ▸ Arena.checkBound_eq_ok hu hus, hrun⟩

/-- On every arena that covers its layout a bound split leaves the halves of
its input in its outputs, and the rest as it was. -/
theorem exists_forward {layout : Arena}
    (hcheck : check s.name s.inShape s.halfShape s.halfShape
      (s.first == s.second) = .ok ())
    (hin : layout.shape? s.input = some s.inShape)
    (hfirst : layout.shape? s.first = some s.halfShape)
    (hsecond : layout.shape? s.second = some s.halfShape) (ha : a.Covers layout)
    (hx : a.tensor? s.input = some x) :
    ∃ a', s.forward a = .ok () a' ∧ a'.Covers layout
      ∧ (a'.tensor? s.first = some x.firstHalf
        ∧ a'.tensor? s.second = some x.secondHalf)
      ∧ ∀ id, id ≠ s.first → id ≠ s.second → a'.tensor? id = a.tensor? id := by
  obtain ⟨hxshape, hxs⟩ := ha.found hin hx
  obtain ⟨t, ht, htshape, hts⟩ := ha _ _ hfirst
  obtain ⟨u, hu, hushape, hus⟩ := ha _ _ hsecond
  obtain ⟨hhalf, hrun⟩ :=
    forward_eq_ok hcheck hx hxs hxshape ht hts htshape hu hus hushape
  obtain ⟨hshape₁, hsound₁⟩ := Tensor.channelHalf_sound 0 hhalf hts htshape
  obtain ⟨hshape₂, hsound₂⟩ :=
    Tensor.channelHalf_sound (x.shape.channels / 2) hhalf hts htshape
  obtain ⟨-, -, -, -, hsame⟩ := check_eq_ok_iff.1 hcheck
  rw [beq_eq_false_iff_ne] at hsame
  have hlt := Arena.tensor?_eq_some_lt ht
  have hlt' : s.second.index < (a.put s.first x.firstHalf).tensors.size := by
    rw [Arena.size_put]
    exact Arena.tensor?_eq_some_lt hu
  refine ⟨_, hrun,
    (ha.put (hfirst.trans (congrArg some hshape₁.symm)) hsound₁).put
    (hsecond.trans (congrArg some hshape₂.symm)) hsound₂, ⟨?_, ?_⟩,
    fun id hne hne' => ?_⟩
  · rw [Arena.tensor?_put_of_ne hsame, Arena.tensor?_put_self hlt]
  · exact Arena.tensor?_put_self hlt'
  · rw [Arena.tensor?_put_of_ne hne', Arena.tensor?_put_of_ne hne]

end Split

-- =========================================================== interleave

namespace Interleave

/-- All that is asked of an interleave. -/
theorem check_eq_ok_iff {op : String} {first second output : Shape}
    {aliased : Bool} {u : Unit} :
    check op first second output aliased = .ok u ↔
      first = second ∧ 0 < first.channels
        ∧ first.channels + second.channels < Size.limit
        ∧ output = first.withChannels (first.channels + second.channels)
        ∧ aliased = false := by
  simp only [check, Outcome.guard_eq_ok_iff, Outcome.lastGuard_eq_ok_iff,
    Outcome.bind_eq_ok_iff, Outcome.ofOption_eq_ok_iff,
    Size.add_eq_some_iff, ne_eq, Decidable.not_not, Bool.not_eq_true]
  constructor
  · intro hall
    obtain ⟨heq, hpos, _, ⟨hlt, rfl⟩, hout, haliased⟩ := hall
    exact ⟨heq, by omega, hlt, hout, haliased⟩
  · intro hall
    obtain ⟨heq, hpos, hlt, hout, haliased⟩ := hall
    exact ⟨heq, by omega, _, ⟨hlt, rfl⟩, hout, haliased⟩

/-- Weaving over any output of the right length. -/
theorem weave?_eq_some {x y : Tensor Single} {out : Array Single}
    (hxy : x.data.size = y.data.size)
    (hout : out.size = x.data.size + y.data.size) :
    weave? x.data y.data (min (out.size / 2) (min x.data.size y.data.size)) out
      = some (x.weave y).data := by
  have hpairs : min (out.size / 2) (min x.data.size y.data.size)
    = x.data.size := by omega
  obtain ⟨r, hr, hsize, hcell⟩ := Kernel.paint?_eq_some x.data.size 2 some
    (fun i side => if side = 0 then x.data[i]? else y.data[i]?) out
    (by omega) (fun p hp => ⟨p, rfl, fun c _ => by
      rw [Array.getElem?_eq_getElem hp, Array.getElem?_eq_getElem (hxy ▸ hp)]
      split
      · rfl
      · rfl⟩)
  rw [weave?, hpairs, hr, Tensor.weave,
    eq_map_range_of_getElem? (hsize.trans hout) fun i hi => ?_]
  rw [hcell, if_pos (by omega), Kernel.cellValue?, Option.bind_some]
  by_cases hside : i % 2 = 0
  · rw [if_pos hside, if_pos hside]
    exact getElem?_eq_some_getD (by omega)
  · rw [if_neg hside, if_neg hside]
    exact getElem?_eq_some_getD (by omega)

variable {s : Interleave} {a : Arena} {x y old : Tensor Single}

/-- A bound interleave puts the merger of its inputs in its output; all else
stays. -/
theorem forward_eq_ok
    (hcheck : check s.name s.halfShape s.halfShape s.outShape
      (s.output == s.first || s.output == s.second) = .ok ())
    (hx : a.tensor? s.first = some x) (hxs : x.Sound)
    (hxshape : x.shape = s.halfShape) (hy : a.tensor? s.second = some y)
    (hys : y.Sound) (hyshape : y.shape = s.halfShape)
    (hold : a.tensor? s.output = some old) (holds : old.Sound)
    (hout : old.shape = s.outShape) :
    (x.weave y).shape = s.outShape ∧ (x.weave y).Sound ∧
      s.forward a = .ok () (a.put s.output (x.weave y)) := by
  obtain ⟨-, -, -, houtShape, haliased⟩ := check_eq_ok_iff.1 hcheck
  rw [Bool.or_eq_false_iff, beq_eq_false_iff_ne,
    beq_eq_false_iff_ne] at haliased
  have hshape : (x.weave y).shape = s.outShape := by
    rw [houtShape, Tensor.weave, hxshape, hyshape]
  have hsame : x.data.size = y.data.size := by
    rw [hxs.size_eq, hys.size_eq, hxshape, hyshape]
  have hvolume : s.outShape.volume = x.data.size + y.data.size := by
    rw [houtShape, hxs.size_eq, hys.size_eq, hxshape, hyshape]
    exact Nat.mul_add _ _ _
  have hsize : old.data.size = x.data.size + y.data.size := by
    rw [holds.size_eq, hout, hvolume]
  have hweave : (x.weave y).data.size = old.data.size := by
    rw [hsize, Tensor.weave]
    simp
  -- the output is away while the inputs are read, and is neither of them
  have hxdata : (a.put s.output Tensor.empty).data? s.first = some x.data :=
    (Arena.data?_put_of_ne (Ne.symm haliased.1)).trans
      (Arena.data?_of_tensor? hx)
  have hydata : (a.put s.output Tensor.empty).data? s.second = some y.data :=
    (Arena.data?_put_of_ne (Ne.symm haliased.2)).trans
      (Arena.data?_of_tensor? hy)
  have hrun := Arena.withOutput_eq_ok (fun arena out => do
      let a ← arena.data? s.first
      let b ← arena.data? s.second
      let data ← weave? a b (min (out.size / 2) (min a.size b.size)) out
      some ((), data)) () (x.weave y).data hold (by
    simp only [hxdata, hydata, Option.bind_eq_bind, Option.bind_some]
    rw [weave?_eq_some hsame hsize, Option.bind_some])
  rw [hout, ← hshape] at hrun
  refine ⟨hshape, ?_, ?_⟩
  · rw [← hshape] at hout
    have := holds.of_size (x.weave y).data (hweave.trans holds.size_eq)
    rwa [hout] at this
  · simp only [forward, Step.bind_eq_ok_iff]
    exact ⟨(), a, hxshape ▸ Arena.checkBound_eq_ok hx hxs, (), a,
      hyshape ▸ Arena.checkBound_eq_ok hy hys, (), a,
      hout ▸ Arena.checkBound_eq_ok hold holds, hrun⟩

/-- On every arena that covers its layout a bound interleave leaves the merger
of its inputs in its output, and the rest as it was. -/
theorem exists_forward {layout : Arena}
    (hcheck : check s.name s.halfShape s.halfShape s.outShape
      (s.output == s.first || s.output == s.second) = .ok ())
    (hfirst : layout.shape? s.first = some s.halfShape)
    (hsecond : layout.shape? s.second = some s.halfShape)
    (hout : layout.shape? s.output = some s.outShape) (ha : a.Covers layout)
    (hx : a.tensor? s.first = some x) (hy : a.tensor? s.second = some y) :
    ∃ a', s.forward a = .ok () a' ∧ a'.Covers layout
      ∧ a'.tensor? s.output = some (x.weave y)
      ∧ ∀ id, id ≠ s.output → a'.tensor? id = a.tensor? id := by
  obtain ⟨hxshape, hxs⟩ := ha.found hfirst hx
  obtain ⟨hyshape, hys⟩ := ha.found hsecond hy
  obtain ⟨old, hold, holdShape, holds⟩ := ha _ _ hout
  obtain ⟨hshape, hsound, hrun⟩ :=
    forward_eq_ok hcheck hx hxs hxshape hy hys hyshape hold holds holdShape
  exact ⟨_, hrun, ha.put (hout.trans (congrArg some hshape.symm)) hsound,
    Arena.tensor?_put_self (Arena.tensor?_eq_some_lt hold),
    fun id hne => Arena.tensor?_put_of_ne hne⟩

end Interleave

end FireNet
