/-
What a block does to the channels of its input. Whatever its layers are, a
block that could be bound merges two tensors of half its width: the results
of both branches, or, with stride 1, the first half of the input as it is
and the result of the main branch over the second half. The branches
compute on the backend of the handle that the block was bound with.

Nothing is assumed of the layers. Their windows and widths may be anything;
that the two results have one shape, and that a block of stride 1 gives
back the shape it was given, is what the checks of the set-up leave
possible (`Block.Binds`). The interleave wants equal tensors and the split
wants halves, so the width of the block is twice that of either path.
-/
import FireNet.Proofs.Operator.Block
import FireNet.Proofs.Operator.Shuffle

set_option autoImplicit false

namespace FireNet

-- ============================================================== mergers

/-- The channels of `y` are those of `first` and of `second` in turn, for
every pixel. -/
structure Tensor.Alternates (y first second : Tensor Single) : Prop where
  second_shape : second.shape = first.shape
  shape_eq : y.shape = first.shape.withChannels (2 * first.shape.channels)
  even : ∀ py < y.shape.height, ∀ px < y.shape.width,
    ∀ j < first.shape.channels, y.value? py px (2 * j) = first.value? py px j
  odd : ∀ py < y.shape.height, ∀ px < y.shape.width, ∀ j < first.shape.channels,
    y.value? py px (2 * j + 1) = second.value? py px j

/-- A weave has one tensor on its even channels and the other on its odd
ones. -/
theorem Tensor.weave_alternates {x y : Tensor Single} (hx : x.Sound)
    (hy : y.Sound) (hshape : x.shape = y.shape) :
    (x.weave y).Alternates x y := by
  refine ⟨hshape.symm, ?_, fun _ hpy _ hpx _ hj =>
    weave_value?_even hx hy hshape hpy hpx hj,
    fun _ hpy _ hpx _ hj => weave_value?_odd hx hy hshape hpy hpx hj⟩
  rw [weave, ← hshape, Nat.two_mul]

-- ================================================================ paths

/-- What the paths of a block make of an input `x` on a backend. -/
inductive BlockLayers.Separates (layers : BlockLayers) (backend : Backend)
    (x first second : Tensor Single) : Prop where
  /-- The first half of the channels passes; the main branch is given the
  second half, `z`, and nothing else. -/
  | keep (z : Tensor Single) (hstride : layers.stride = 1)
      (hside : layers.side = none)
      (hwidth : x.shape.channels = 2 * first.shape.channels)
      (hfirst : first.HoldsChannels x 0)
      (hz : z.HoldsChannels x first.shape.channels)
      (hzshape : z.shape = first.shape)
      (hsecond : layers.main.run? backend z = some second)
  /-- Both branches are given the whole input. -/
  | downsample (side : SideLayers) (hstride : 1 < layers.stride)
      (hside : layers.side = some side)
      (hfirst : side.run? backend x = some first)
      (hsecond : layers.main.run? backend x = some second)

namespace Block

variable {b b' : Bench} {name : String} {handle : Handle} {input : TensorId}
  {layers : BlockLayers} {block : Block}

/-- What a bound block puts together are its two sides, each on its own
channels. -/
theorem Binds.separates {b₁ : Bench} {image half : Shape}
    {x first second : Tensor Single}
    (h : Binds name input layers handle b b₁ b' image half block) (hx : x.Sound)
    (hxshape : x.shape = image) (hfirst : first.Sound)
    (hhalf : first.shape = half)
    (hpaths : layers.paths? handle.backend x = some (first, second)) :
    layers.Separates handle.backend x first second := by
  rcases setupPath_cases h.path with ⟨_, _, _, _, ⟨hstride, hside, hsame⟩, -⟩
    | ⟨side, _, _, _, hstride, hside, -⟩
  · rw [BlockLayers.paths?_of_none handle.backend hside] at hpaths
    simp only [Option.bind_eq_bind, Option.bind_eq_some_iff, Option.some.injEq,
      Prod.mk.injEq] at hpaths
    obtain ⟨_, hmain, rfl, rfl⟩ := hpaths
    have hwidth : x.shape.channels = 2 * half.channels := by
      rw [hxshape, h.inputs_eq, hsame, h.outputs_eq]
    have hcut : x.shape.channels / 2 = half.channels := by omega
    obtain ⟨hsecondShape, hsecond⟩ :=
      Tensor.channelHalf_sound (x.shape.channels / 2) (x := x) rfl hfirst rfl
    refine .keep x.secondHalf hstride hside (by rw [hhalf, hwidth])
      (Tensor.channelHalf_holds hx hwidth (by omega) hfirst) ?_
        hsecondShape hmain
    rw [hhalf, ← hcut]
    exact Tensor.channelHalf_holds hx hwidth (by omega) hsecond
  · rw [BlockLayers.paths?_of_some handle.backend hside] at hpaths
    simp only [Option.bind_eq_bind, Option.bind_eq_some_iff, Option.some.injEq,
      Prod.mk.injEq] at hpaths
    obtain ⟨_, hside', _, hmain, rfl, rfl⟩ := hpaths
    exact .downsample side hstride hside hside' hmain

/-- A pass of a bound block, whatever its tensors hold. It runs; its result
has the channels of both paths in turn, each path half the width of the
block; with stride 1 that leaves the shape of the input, and its first
channels at the even places. Only what the set-up allocated is written. -/
theorem setup_mixes (h : setup name input layers handle b = .ok block b')
    {a : Arena} (ha : a.Covers b'.arena) :
    ∃ x first second y a',
      a.tensor? input = some x ∧ block.forward a = .ok () a'
      ∧ (a'.tensor? block.path.first = some first
        ∧ a'.tensor? block.path.second = some second
        ∧ a'.tensor? block.output = some y)
      ∧ y.Alternates first second ∧ layers.outputs = 2 * first.shape.channels
      ∧ layers.Separates handle.backend x first second
      ∧ (layers.stride = 1 → y.shape = x.shape
        ∧ ∀ py < x.shape.height, ∀ px < x.shape.width,
          ∀ j < x.shape.channels / 2, y.value? py px (2 * j) = x.value? py px j)
      ∧ b.arena.Grows b'.arena
      ∧ a.Rewrites a' b.arena.tensors.size b'.arena.tensors.size := by
  obtain ⟨b₁, image, half, hbinds⟩ := exists_binds h
  have hgrows := hbinds.path_forks.1.trans hbinds.grows
  obtain ⟨x, hx, hxshape, hxs⟩ := ha _ _ (hgrows.shape? hbinds.input_shape)
  obtain ⟨first, second, a', hpaths, hrun, hcovers, ⟨hfirst, hsecond⟩, hwoven,
      hrewrites⟩ :=
    hbinds.run ha hx
  obtain ⟨hfirstShape, hfs⟩ :=
    hcovers.found (hbinds.grows.shape? hbinds.first_shape) hfirst
  obtain ⟨hsecondShape, hss⟩ := hcovers.found hbinds.second_shape hsecond
  have hmixed : (first.weave second).Alternates first second :=
    Tensor.weave_alternates hfs hss (hfirstShape.trans hsecondShape.symm)
  have hseparates := hbinds.separates hxs hxshape hfs hfirstShape hpaths
  refine ⟨x, first, second, first.weave second, a', hx, hrun,
    ⟨hfirst, hsecond, hwoven⟩, hmixed,
    by rw [hfirstShape]; exact hbinds.outputs_eq, hseparates, fun hstride => ?_,
    hgrows, hrewrites⟩
  cases hseparates with
  | downsample side hlarge => omega
  | keep z _ _ hwidth hpasses =>
      have hshape : (first.weave second).shape = x.shape := by
        rw [hmixed.shape_eq, ← hwidth, Shape.withChannels, hpasses.height_eq,
          hpasses.width_eq]
      refine ⟨hshape, fun py hpy px hpx j hj => ?_⟩
      have hj' : j < first.shape.channels := by omega
      rw [hmixed.even py (hshape ▸ hpy) px (hshape ▸ hpx) j hj',
        hpasses.value?_eq py hpy px hpx j hj', Nat.zero_add]

/-- A block with the stride of a downsampling one whose windows keep the
size, over an odd number of channels, bound for vector instructions. -/
theorem setup_mixes_uneven :
    ∃ (layers : BlockLayers) (block : Block) (b' : Bench),
      setup "block" ⟨0⟩ layers ⟨.vector⟩
        (Bench.ofArena (Arena.empty.grow [⟨2, 3, 3⟩]))
          = .ok block b'
        ∧ layers.stride = 5 ∧ ∀ a : Arena,
          a.Covers b'.arena → ∃ x first second y a',
          a.tensor? ⟨0⟩ = some x ∧ block.forward a = .ok () a'
          ∧ a'.tensor? block.output = some y ∧ y.Alternates first second
          ∧ layers.main.run? .vector x = some second := by
  obtain ⟨layers, block, b', hsetup, hstride⟩ :
    ∃ (layers : BlockLayers) (block : Block)
      (b' : Bench), setup "block" ⟨0⟩ layers ⟨.vector⟩
        (Bench.ofArena (Arena.empty.grow [⟨2, 3, 3⟩])) = .ok block b'
          ∧ layers.stride = 5 :=
    ⟨⟨4, 3, 5, some
      ⟨⟨3, 3, Window.square 3 1 1, .identity,
        Array.replicate 27 Single.one, none⟩,
      ⟨3, 2, Window.square 1 1 0, .relu, Array.replicate 6 Single.one, none⟩⟩,
      ⟨⟨3, 1, Window.square 1 1 0, .relu, Array.replicate 3 Single.one, none⟩,
        ⟨1, 1, Window.square 1 1 0, .relu, Array.replicate 1 Single.one, none⟩,
        ⟨1, 2, Window.square 1 1 0, .relu,
          Array.replicate 2 Single.one, none⟩⟩⟩,
      _, _, rfl, rfl⟩
  refine ⟨layers, block, b', hsetup, hstride, fun a ha => ?_⟩
  obtain ⟨x, first, second, y, a', hx, hrun, ⟨-, -, hy⟩, hmixed, -,
      hseparates, -⟩ :=
    setup_mixes hsetup ha
  refine ⟨x, first, second, y, a', hx, hrun, hy, hmixed, ?_⟩
  cases hseparates with
  | keep _ hone => omega
  | downsample _ _ _ _ hmain => exact hmain

end Block

end FireNet
