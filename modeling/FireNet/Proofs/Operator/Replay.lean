/-
Bound operators replay. What a set-up accepts runs on every arena that has
the tensors of the set-up, whatever they hold, and leaves each with its
shape and length, so a pass can be followed by a pass.

There is one gap. A primitive detaches its output while it computes, and
its set-up never compares the two ids, so an input that is also the output
is read as an empty buffer. Bound in place, a kernel that takes a value
from its input faults, and one that takes none runs (`Action.Reads`). The
mean is of the second kind: it sums the pixels that it finds. Splits and
interleaves are never bound in place, for their channel counts or their
checks rule it out, and blocks and stages write only tensors of their own.

A fault is one of a development build, where the kernels also make their
debug assertions. A dense convolution asserts the length of its input; the
others fault by an index out of range, in any build. Without the assertion
a dense convolution faults only where it reads: in a release build, bound
in place, a 1x1 convolution of stride one without padding goes over the
pixels that it finds, which are none, and leaves its tensor as it was.
-/
import FireNet.Proofs.Operator.Extends
import FireNet.Proofs.Operator.Stage

set_option autoImplicit false

namespace FireNet

-- ====================================================== missing images

namespace Window

/-- Some cell of the kernel falls on the image at one of the places. -/
def Touches (w : Window) (image places : Shape) : Prop :=
  ∃ p < places.height * places.width,
    w.tapsAt image (p / places.width) (p % places.width) ≠ []

/-- The taps of a place, if the pixels under them lie in a buffer of `size`
values. -/
def pixelTaps? (w : Window) (image places : Shape) (size p : Nat) :
    Option (List Tap) := do
  let taps ← w.taps? image (p / places.width) (p % places.width)
  if taps.all fun t => (t.y * image.width + t.x) * image.channels
    + image.channels ≤ size then
    some taps
  else none

variable {w : Window} {image places : Shape} {α : Type}
  {value : List Tap → Nat → Option α}

/-- In an empty buffer lie the pixels of a place only when it has no taps. -/
theorem Places.pixelTaps?_zero {p : Nat}
    (h : w.Places image.height image.width (places.height, places.width))
    (hchannels : 0 < image.channels) (hp : p < places.height * places.width) :
    w.pixelTaps? image places 0 p
      = if w.tapsAt image (p / places.width) (p % places.width)
        = [] then some [] else none := by
  unfold pixelTaps?
  rw [h.taps?_position hp, Option.bind_eq_bind, Option.bind_some]
  cases w.tapsAt image (p / places.width) (p % places.width) with
  | nil => rfl
  | cons t rest =>
      have houtside :
          ¬(t.y * image.width + t.x) * image.channels + image.channels ≤ 0 := by
        omega
      rw [if_neg (by simp only [List.all_cons, decide_eq_false houtside,
        Bool.false_and]; simp), if_neg (by simp)]

/-- A kernel that paints from an empty buffer comes out when it touches
nothing. -/
theorem Places.exists_paint?_zero [Inhabited α]
    (h : w.Places image.height image.width (places.height, places.width))
    (hchannels : 0 < image.channels) (htouch : ¬w.Touches image places)
    (hvalue : ∀ c < image.channels, (value [] c).isSome) :
    ∃ r : Array α, r.size = places.height * places.width * image.channels ∧
      ∀ out : Array α,
        out.size = places.height * places.width * image.channels →
        Kernel.paint? (places.height * places.width) image.channels
          (w.pixelTaps? image places 0) value out = some r := by
  refine Kernel.paint?_complete _ _ _ _ rfl fun p hp => ⟨[], ?_, hvalue⟩
  rw [h.pixelTaps?_zero hchannels hp]
  by_cases htaps : w.tapsAt image (p / places.width) (p % places.width) = []
  · rw [if_pos htaps]
  · exact absurd ⟨p, hp, htaps⟩ htouch

/-- One that touches the image faults. -/
theorem Places.paint?_zero
    (h : w.Places image.height image.width (places.height, places.width))
    (hchannels : 0 < image.channels) (htouch : w.Touches image places)
    (out : Array α) :
    Kernel.paint? (places.height * places.width) image.channels
      (w.pixelTaps? image places 0) value out = none := by
  obtain ⟨p, hp, htaps⟩ := htouch
  refine Kernel.paintFrom?_eq_none (Nat.zero_le p) (by omega) ?_
  rw [h.pixelTaps?_zero hchannels hp, if_neg htaps]

end Window

-- ==================================================== kernels in place

namespace Action

/-- The kernel takes a value from its input, or insists on its length. A
dense convolution insists by a debug assertion, so for it this is about a
development build; in a release build one that finds no pixel runs. -/
def Reads (inShape outShape : Shape) : Action → Prop
  | convolution _ => True
  | depthwise layer => layer.window.Touches inShape outShape
  | maxPool w => w.Touches inShape outShape
  | meanPool => False
  | fullyConnected _ => True

variable {op : String} {inShape outShape : Shape} {layer : Layer}
  {action : Action}

/-- A dense convolution of a missing image is a fault: the image of a checked
one is not empty. -/
theorem convolve?_missing {u : Unit} (backend : Backend)
    (hcheck : (convolution layer).check op inShape outShape = .ok u)
    (out : Array Single) :
    layer.filter.convolve? #[] inShape outShape out backend = none := by
  obtain ⟨⟨hpos, hchannels⟩, -, -, hplaces, -⟩ :=
    check_convolution_eq_ok_iff.1 hcheck
  have hvolume : 0 < inShape.volume :=
    Nat.mul_pos (Nat.mul_pos hplaces.1.input_pos hplaces.2.input_pos) (by omega)
  unfold Filter.convolve?
  cases hsize : inShape.size? with
  | none => rfl
  | some inSize =>
      have hne : (0 : Nat) ≠ inSize := by
        have := (Shape.size?_eq_some_iff.1 hsize).2.2
        omega
      cases outShape.size? with
      | none => rfl
      | some outSize =>
          cases Filter.denseWeights? layer.filter.window inShape.channels
            outShape.channels with
          | none => rfl
          | some weights => exact if_pos (Or.inl hne)

/-- A checked convolution by channel of a missing image, past the checks of
its lengths. -/
theorem depthwise?_missing {u : Unit}
    (hcheck : (depthwise layer).check op inShape outShape = .ok u) :
    ∃ value : List Tap → Nat → Option Single,
      (∀ c < inShape.channels, (value [] c).isSome) ∧
        ∀ out, layer.filter.depthwise? #[] inShape outShape out
          = Kernel.paint? (outShape.height * outShape.width) inShape.channels
              (layer.window.pixelTaps? inShape outShape 0) value out := by
  obtain ⟨heven, ⟨hpos, hchannels⟩, ⟨-, houtputs⟩, -, -, -, hbias⟩ :=
    check_depthwise_eq_ok_iff.1 hcheck
  obtain ⟨cells, hcells, hweights⟩ := weights_of_check_depthwise hcheck
  rw [← heven, ← hchannels] at hbias houtputs
  refine ⟨layer.filter.depthwiseValue? #[] inShape cells, fun c hc => ?_,
    fun out => ?_⟩
  · obtain ⟨start, hstart⟩ := hbias.exists_biasAt hc
    unfold Filter.depthwiseValue?
    rw [hstart]
    rfl
  · exact Filter.depthwise?_eq_paint? (f := layer.filter) hcells hweights hbias
      houtputs.symm out

/-- A checked action that reads its input faults when that is empty. -/
theorem compute?_missing (backend : Backend)
    (hcheck : action.check op inShape outShape = .ok ())
    (hreads : action.Reads inShape outShape) (out : Array Single) :
    action.compute? backend #[] inShape outShape out = none := by
  cases action with
  | convolution layer => exact convolve?_missing backend hcheck out
  | depthwise layer =>
      obtain ⟨-, ⟨hpos, hchannels⟩, -, -, hplaces, -⟩ :=
        check_depthwise_eq_ok_iff.1 hcheck
      obtain ⟨value, -, hpaint⟩ := depthwise?_missing hcheck
      exact (hpaint out).trans (hplaces.paint?_zero (by omega) hreads out)
  | maxPool w =>
      obtain ⟨⟨hpos, -⟩, hplaces, -⟩ := check_maxPool_eq_ok_iff.1 hcheck
      exact hplaces.paint?_zero hpos hreads out
  | meanPool => cases hreads
  | fullyConnected layer =>
      unfold compute? Kernel.affine?
      cases Size.mul (#[] : Array Single).size out.size with
      | none => rfl
      | some expected => exact if_pos (Or.inr rfl)

/-- One that does not read it comes out. -/
theorem exists_compute?_missing (backend : Backend)
    (hcheck : action.check op inShape outShape = .ok ())
    (hreads : ¬action.Reads inShape outShape) :
    ∃ r : Array Single, r.size = outShape.volume ∧
      ∀ out : Array Single, out.size = outShape.volume →
        action.compute? backend #[] inShape outShape out = some r := by
  cases action with
  | convolution layer => exact absurd trivial hreads
  | depthwise layer =>
      obtain ⟨heven, ⟨hpos, hchannels⟩, ⟨-, houtputs⟩, -, hplaces, -⟩ :=
        check_depthwise_eq_ok_iff.1 hcheck
      obtain ⟨value, hvalue, hpaint⟩ := depthwise?_missing hcheck
      have hvolume :
          outShape.volume = outShape.height * outShape.width
            * inShape.channels := by
        rw [Shape.volume, houtputs, hchannels, heven]
      obtain ⟨r, hr, hout⟩ :=
        hplaces.exists_paint?_zero (by omega) hreads hvalue
      rw [hvolume]
      exact ⟨r, hr, fun out hsize => (hpaint out).trans (hout out hsize)⟩
  | maxPool w =>
      obtain ⟨⟨hpos, hsame⟩, hplaces, -⟩ := check_maxPool_eq_ok_iff.1 hcheck
      have hvolume :
          outShape.volume = outShape.height * outShape.width
            * inShape.channels := by
        rw [Shape.volume, hsame]
      rw [hvolume]
      exact hplaces.exists_paint?_zero hpos hreads fun _ _ => rfl
  | meanPool =>
      obtain ⟨⟨positions, hpositions, -⟩, hchannels, hheight, hwidth⟩ :=
        check_meanPool_eq_ok_iff.1 hcheck
      have hvolume : outShape.volume = inShape.channels := by
        rw [Shape.volume, hheight, hwidth, Nat.one_mul, hchannels.2]
      rw [hvolume]
      exact Kernel.exists_meanPool? hpositions hchannels.1
  | fullyConnected layer => exact absurd trivial hreads

end Action

-- ====================================================== seven operators

variable {a : Arena}

namespace Primitive

variable {p : Primitive} {x old : Tensor Single}

/-- A primitive computes while its output is out of the arena. -/
theorem forward_eq_withOutput (hx : a.tensor? p.input = some x) (hxs : x.Sound)
    (hin : x.shape = p.inShape) (hold : a.tensor? p.output = some old)
    (holds : old.Sound) (hout : old.shape = p.outShape) :
    p.forward a = Arena.withOutput p.output (fun arena out => do
      let input ← arena.data? p.input
      let data ←
        p.action.compute? p.handle.backend input p.inShape p.outShape out
      some ((), data)) a := by
  have hfirst : Arena.checkBound p.name p.input p.inShape a = .ok () a :=
    hin ▸ Arena.checkBound_eq_ok hx hxs
  have hsecond : Arena.checkBound p.name p.output p.outShape a = .ok () a :=
    hout ▸ Arena.checkBound_eq_ok hold holds
  unfold forward
  simp only [bind, EStateM.bind, hfirst, hsecond]

/-- In place a primitive sees no input. -/
theorem fill_in_place (hold : a.tensor? p.output = some old)
    (hsame : p.input = p.output) (out : Array Single) :
    (do
      let input ← (a.put p.output Tensor.empty).data? p.input
      let data ←
        p.action.compute? p.handle.backend input p.inShape p.outShape out
      some ((), data))
      = (p.action.compute? p.handle.backend #[] p.inShape p.outShape out).map
        ((), ·) := by
  have hdata : (a.put p.output Tensor.empty).data? p.input = some #[] := by
    rw [hsame]
    exact Arena.data?_of_tensor?
      (Arena.tensor?_put_self (Arena.tensor?_eq_some_lt hold))
  rw [hdata, Option.bind_eq_bind, Option.bind_some]
  cases p.action.compute? p.handle.backend #[] p.inShape p.outShape out with
  | none => rfl
  | some data => rfl

/-- Bound in place, a primitive that reads its input faults. -/
theorem forward_eq_fault
    (hcheck : p.action.check p.name p.inShape p.outShape = .ok ())
    (hx : a.tensor? p.input = some x) (hxs : x.Sound)
    (hin : x.shape = p.inShape) (hold : a.tensor? p.output = some old)
    (holds : old.Sound) (hout : old.shape = p.outShape)
    (hsame : p.input = p.output)
    (hreads : p.action.Reads p.inShape p.outShape) :
    p.forward a = .error .fault (a.put p.output Tensor.empty) := by
  rw [forward_eq_withOutput hx hxs hin hold holds hout]
  refine Arena.withOutput_eq_fault _ hold ?_
  rw [fill_in_place hold hsame, Action.compute?_missing _ hcheck hreads]
  rfl

/-- Otherwise it runs, and every tensor keeps its shape and length. -/
theorem forward_alike
    (hcheck : p.action.check p.name p.inShape p.outShape = .ok ())
    (hx : a.tensor? p.input = some x) (hxs : x.Sound)
    (hin : x.shape = p.inShape) (hold : a.tensor? p.output = some old)
    (holds : old.Sound) (hout : old.shape = p.outShape)
    (hreads : ¬(p.input = p.output ∧ p.action.Reads p.inShape p.outShape)) :
    ∃ a', p.forward a = .ok () a' ∧ a.Alike a' := by
  by_cases hsame : p.input = p.output
  · obtain ⟨r, hr, hcompute⟩ :=
      Action.exists_compute?_missing p.handle.backend hcheck fun h =>
        hreads ⟨hsame, h⟩
    have hvolume : old.data.size = p.outShape.volume := by
      rw [holds.size_eq, hout]
    refine ⟨a.put p.output ⟨old.shape, r⟩, ?_,
      Arena.alike_put hold rfl (by rw [hr, hvolume])⟩
    rw [forward_eq_withOutput hx hxs hin hold holds hout]
    refine Arena.withOutput_eq_ok _ () r hold ?_
    rw [fill_in_place hold hsame, hcompute _ hvolume]
    rfl
  · obtain ⟨y, -, hshape, hys, hrun⟩ :=
      forward_eq_ok hcheck hx hxs hin hold holds hout hsame
    exact ⟨_, hrun, Arena.alike_put_sound hold holds hys
      (hshape.trans hout.symm)⟩

end Primitive

/-- A split runs however it is bound. -/
theorem Split.forward_alike {s : Split} {x t u : Tensor Single}
    (hcheck : check s.name s.inShape s.halfShape s.halfShape
      (s.first == s.second) = .ok ())
    (hx : a.tensor? s.input = some x) (hxs : x.Sound)
    (hin : x.shape = s.inShape) (ht : a.tensor? s.first = some t)
    (hts : t.Sound) (htshape : t.shape = s.halfShape)
    (hu : a.tensor? s.second = some u) (hus : u.Sound)
    (hushape : u.shape = s.halfShape) :
    ∃ a', s.forward a = .ok () a' ∧ a.Alike a' := by
  obtain ⟨-, -, -, -, hsame⟩ := check_eq_ok_iff.1 hcheck
  rw [beq_eq_false_iff_ne] at hsame
  obtain ⟨hhalf, hrun⟩ :=
    forward_eq_ok hcheck hx hxs hin ht hts htshape hu hus hushape
  obtain ⟨hshape₁, hsound₁⟩ := Tensor.channelHalf_sound 0 hhalf hts htshape
  obtain ⟨hshape₂, hsound₂⟩ :=
    Tensor.channelHalf_sound (x.shape.channels / 2) hhalf hts htshape
  have hu' : (a.put s.first x.firstHalf).tensor? s.second = some u :=
    (Arena.tensor?_put_of_ne (Ne.symm hsame)).trans hu
  exact ⟨_, hrun,
    (Arena.alike_put_sound ht hts hsound₁ (hshape₁.trans htshape.symm)).trans
      (Arena.alike_put_sound hu' hus hsound₂ (hshape₂.trans hushape.symm))⟩

/-- An interleave runs however it is bound. -/
theorem Interleave.forward_alike {s : Interleave} {x y old : Tensor Single}
    (hcheck : check s.name s.halfShape s.halfShape s.outShape
      (s.output == s.first || s.output == s.second) = .ok ())
    (hx : a.tensor? s.first = some x) (hxs : x.Sound)
    (hxshape : x.shape = s.halfShape) (hy : a.tensor? s.second = some y)
    (hys : y.Sound) (hyshape : y.shape = s.halfShape)
    (hold : a.tensor? s.output = some old) (holds : old.Sound)
    (hout : old.shape = s.outShape) :
    ∃ a', s.forward a = .ok () a' ∧ a.Alike a' := by
  obtain ⟨hshape, hsound, hrun⟩ :=
    forward_eq_ok hcheck hx hxs hxshape hy hys hyshape hold holds hout
  exact ⟨_, hrun, Arena.alike_put_sound hold holds hsound
    (hshape.trans hout.symm)⟩

-- ================================================= computing operators

/-- What computes in tensors of its own keeps all shapes and lengths. -/
theorem Computes.forward_alike {layout : Arena} {input output : TensorId}
    {lo hi : Nat} {step : Step Arena Unit}
    {f : Tensor Single → Option (Tensor Single)}
    (h : Computes layout input output lo hi step f) (ha : a.Covers layout) :
    ∃ a', step a = .ok () a' ∧ a.Alike a' := by
  have hlt : input.index < layout.tensors.size :=
    Nat.lt_of_lt_of_le h.input_lt (Nat.le_trans h.lo_le h.hi_le)
  obtain ⟨x, hx, -⟩ :=
    ha input _ (Arena.shape?_of_tensor? (Array.getElem?_eq_getElem hlt))
  obtain ⟨y, a', -, hrun, hcovers, -, hrewrites⟩ := h.run a x ha hx
  exact ⟨a', hrun, Arena.alike_of_rewrites ha hcovers h.hi_le hrewrites⟩

-- ============================================================== replay

/-- The operator is a primitive that reads the tensor it writes. -/
def Operator.ReadsOutput : Operator → Prop
  | .primitive p => p.input = p.output ∧ p.action.Reads p.inShape p.outShape
  | _ => False

namespace Plan

variable {plan : Plan} {handle : Handle} {b b' : Bench} {o : Operator}

/-- What is bound runs on every arena that covers the layout, unless it reads
the tensor that it writes. -/
theorem forward_alike (h : plan.bind handle b = .ok o b')
    (ha : a.Covers b'.arena) (hreads : ¬o.ReadsOutput) :
    ∃ a', o.forward a = .ok () a' ∧ a.Alike a' := by
  cases plan with
  | primitive name action input output =>
      obtain ⟨p, hp, rfl⟩ := Step.map_eq_ok_iff.1 h
      rw [Primitive.arena_of_setup hp] at ha
      obtain ⟨x, old, rfl, hcheck, ⟨hx, hxs⟩, hold, holds⟩ :=
        Primitive.setup_finds hp ha
      exact Primitive.forward_alike hcheck hx hxs rfl hold holds rfl hreads
  | split name input first second =>
      obtain ⟨s, hs, rfl⟩ := Step.map_eq_ok_iff.1 h
      obtain ⟨inShape, half, other, hin, hfirst, hsecond, hcheck, rfl, rfl⟩ :=
        Split.setup_eq_ok_iff.1 hs
      obtain ⟨-, rfl, -⟩ := Split.check_eq_ok_iff.1 hcheck
      obtain ⟨x, hx, hxshape, hxs⟩ := ha _ _ hin
      obtain ⟨t, ht, htshape, hts⟩ := ha _ _ hfirst
      obtain ⟨u, hu, hushape, hus⟩ := ha _ _ hsecond
      exact Split.forward_alike hcheck hx hxs hxshape ht hts htshape
        hu hus hushape
  | interleave name first second output =>
      obtain ⟨s, hs, rfl⟩ := Step.map_eq_ok_iff.1 h
      obtain ⟨half, other, outShape, hfirst, hsecond, hout, hcheck, rfl, rfl⟩ :=
        Interleave.setup_eq_ok_iff.1 hs
      obtain ⟨rfl, -⟩ := Interleave.check_eq_ok_iff.1 hcheck
      obtain ⟨x, hx, hxshape, hxs⟩ := ha _ _ hfirst
      obtain ⟨y, hy, hyshape, hys⟩ := ha _ _ hsecond
      obtain ⟨old, hold, holdshape, holds⟩ := ha _ _ hout
      exact Interleave.forward_alike hcheck hx hxs hxshape hy hys hyshape hold
        holds holdshape
  -- the rest is put together from fresh tensors, and what computes keeps shapes
  | sideBranch name input layers =>
      obtain ⟨s, hs, rfl⟩ := Step.map_eq_ok_iff.1 h
      exact (SideBranch.setup_computes hs).2.forward_alike ha
  | mainBranch name input layers =>
      obtain ⟨s, hs, rfl⟩ := Step.map_eq_ok_iff.1 h
      exact (MainBranch.setup_computes hs).2.forward_alike ha
  | block name input layers =>
      obtain ⟨s, hs, rfl⟩ := Step.map_eq_ok_iff.1 h
      exact (Block.setup_computes hs).2.forward_alike ha
  | stage number input layers =>
      obtain ⟨s, hs, rfl⟩ := Step.map_eq_ok_iff.1 h
      exact (Stage.setup_computes hs).2.forward_alike ha

/-- What reads the tensor that it writes faults on every such arena. -/
theorem forward_eq_fault (h : plan.bind handle b = .ok o b')
    (ha : a.Covers b'.arena) (hreads : o.ReadsOutput) :
    ∃ a', o.forward a = .error .fault a' := by
  cases plan with
  | primitive name action input output =>
      obtain ⟨p, hp, rfl⟩ := Step.map_eq_ok_iff.1 h
      rw [Primitive.arena_of_setup hp] at ha
      obtain ⟨x, old, rfl, hcheck, ⟨hx, hxs⟩, hold, holds⟩ :=
        Primitive.setup_finds hp ha
      exact ⟨_, Primitive.forward_eq_fault hcheck hx hxs rfl hold holds rfl
        hreads.1 hreads.2⟩
  | _ =>
      -- only primitives read what they write
      obtain ⟨s, -, rfl⟩ := Step.map_eq_ok_iff.1 h
      cases hreads

/-- What was bound among sound tensors runs on every arena that has them,
whatever they hold, and leaves each with its shape and length: all but a
primitive that reads the tensor it writes, which faults. Faults include the
debug assertions of the kernels, as in a development build; in a release
build a 1x1 convolution of stride one without padding that is bound in
place runs, and leaves the tensor as it was. -/
theorem bind_replays (hsound : b.arena.Sound)
    (hbind : plan.bind handle b = .ok o b') :
    b.arena.Grows b'.arena ∧ ∀ a : Arena, b'.arena.Alike a →
      (¬o.ReadsOutput → ∃ a', o.forward a = .ok () a' ∧ b'.arena.Alike a')
        ∧ (o.ReadsOutput → ∃ a', o.forward a = .error .fault a') := by
  have hgrows := (bind_growsBy hbind).1.grows
  refine ⟨hgrows, fun a halike => ?_⟩
  have hcovers : a.Covers b'.arena :=
    (hsound.grows hgrows).covers.of_alike halike
  constructor
  · intro hreads
    obtain ⟨a', hrun, hkept⟩ := forward_alike hbind hcovers hreads
    exact ⟨a', hrun, halike.trans hkept⟩
  · intro hreads
    exact forward_eq_fault hbind hcovers hreads

/-- A pool between two tensors reads none that it writes, and runs. -/
theorem bind_replays_max_pool :
    ∃ (o : Operator) (b' : Bench),
      bind ⟨.scalar⟩
        (.primitive "pool" (.maxPool (Window.square 3 2 1)) ⟨0⟩ ⟨1⟩)
          (Bench.ofArena (Arena.empty.grow [⟨3, 3, 2⟩, ⟨2, 2, 2⟩])) = .ok o b'
        ∧ ∃ a', o.forward b'.arena = .ok () a' ∧ b'.arena.Alike a' := by
  have hsound : (Arena.empty.grow [⟨3, 3, 2⟩, ⟨2, 2, 2⟩]).Sound :=
    Arena.empty_sound.grows ⟨_, by decide, rfl⟩
  obtain ⟨o, b', hbind, hreads⟩ : ∃ (o : Operator) (b' : Bench),
      bind ⟨.scalar⟩
        (.primitive "pool" (.maxPool (Window.square 3 2 1)) ⟨0⟩ ⟨1⟩)
        (Bench.ofArena (Arena.empty.grow [⟨3, 3, 2⟩, ⟨2, 2, 2⟩])) = .ok o b'
        ∧ ¬o.ReadsOutput := ⟨_, _, rfl, fun h => by cases h.1⟩
  obtain ⟨-, hruns⟩ := bind_replays hsound hbind
  exact ⟨o, b', hbind, (hruns b'.arena fun _ => rfl).1 hreads⟩

/-- A convolution is bound in place, faults, and leaves its tensor empty. -/
theorem convolution_in_place_faults :
    ∃ (layer : Layer) (o : Operator) (b' : Bench) (a' : Arena),
      bind ⟨.scalar⟩ (.primitive "conv" (.convolution layer) ⟨0⟩ ⟨0⟩)
          (Bench.ofArena (Arena.empty.grow [⟨3, 3, 2⟩])) = .ok o b'
        ∧ o.forward b'.arena = .error .fault a'
        ∧ b'.arena.shape? ⟨0⟩ = some ⟨3, 3, 2⟩
        ∧ a'.shape? ⟨0⟩ = some ⟨0, 0, 0⟩ :=
  ⟨⟨2, 2, Window.square 3 1 1, .relu, Array.replicate 36 Single.zero, none⟩,
    _, _, _, rfl, rfl, rfl, rfl⟩

end Plan

end FireNet
