/-
When a declared block can be bound. Its checks lie in the block, in both
branches and in the five convolutions of these, in the split and in the
interleave; together they ask for no more than a few facts about the image
and the declared numbers (`Shape.Admits`), and for room for the tensors.

One way, a block that was bound has passed every check, and the first
convolution on each way through it shows that the image has pixels and can
be padded. The other way, these facts are all that the tensors of the block
can be derived from (`BlockLayers.Strides.allocates`,
`BlockLayers.Keeps.allocates`). Strides larger than the image are no
exception: the padded window always has one place.
-/
import FireNet.Proofs.Operator.Layout

set_option autoImplicit false

namespace FireNet

variable {name : String} {handle : Handle} {input : TensorId} {b b' : Bench}
  {image : Shape} {outputs inputs stride : Nat}

-- =============================================================== images

/-- A block declared from `inputs` to `outputs` channels with a stride has
what it asks for in an image. -/
structure Shape.Admits (image : Shape) (outputs inputs stride : Nat) :
    Prop where
  channels_eq : image.channels = inputs
  inputs_pos : 1 ≤ inputs
  outputs_even : outputs % 2 = 0
  outputs_pos : 2 ≤ outputs
  height_pos : 1 ≤ image.height
  width_pos : 1 ≤ image.width
  stride_pos : 1 ≤ stride
  same_width : stride = 1 → inputs = outputs

/-- The tensors of a declared block, the last of them its result. -/
def Shape.blockTensors (image : Shape) (outputs stride : Nat) : List Shape :=
  if stride = 1 then image.keepTensors else image.stridedTensors stride outputs

namespace Shape.Admits

/-- An admitted width leaves each side a channel. -/
theorem half_pos (h : image.Admits outputs inputs stride) :
    0 < outputs / 2 := by
  have := h.outputs_pos
  omega

/-- The tensors have room only if the image can be padded. -/
theorem paddable (h : image.Admits outputs inputs stride)
    (hfits : ∀ s ∈ image.blockTensors outputs stride, s.Fits) :
    image.Paddable := by
  -- either way one of them is the image with half as many channels as the block
  have hhalf : (image.withChannels (outputs / 2)).Fits := by
    by_cases hstride : stride = 1
    · rw [← h.same_width hstride, ← h.channels_eq]
      refine hfits _ ?_
      rw [blockTensors, if_pos hstride]
      exact List.mem_cons_self
    · refine hfits _ ?_
      rw [blockTensors, if_neg hstride, stridedTensors]
      simp only [List.mem_cons, true_or, or_true]
  obtain ⟨hheight, hwidth, hheightLt, hwidthLt⟩ :=
    hhalf.paddable h.height_pos h.width_pos h.half_pos
  exact ⟨hheight, hwidth, hheightLt, hwidthLt⟩

end Shape.Admits

-- =============================================================== set-ups

/-- A declared block allocates its tensors over every image that it
admits. -/
theorem BlockLayers.allocates_of_declared {layers : BlockLayers} {a : Arena}
    (hdeclared : declare? outputs inputs stride = some (layers.map Layer.blank))
    (h : image.Admits outputs inputs stride) (himage : image.Paddable)
    (hin : a.shape? input = some image) :
    Allocates (Block.setup name input layers handle) a
      (image.blockTensors outputs stride)
      (·.output = ⟨a.tensors.size + 5⟩) := by
  have hpos := h.outputs_pos
  by_cases hstride : stride = 1
  · obtain rfl := hstride
    obtain rfl := h.same_width rfl
    exact (keeps_of_declared hdeclared).allocates
      (by omega) h.outputs_even himage hin h.channels_eq
  · have hlarge : 1 < stride := by
      have := h.stride_pos
      omega
    rw [Shape.blockTensors, if_neg hstride]
    exact (strides_of_declared hlarge hdeclared).allocates h.inputs_pos
      (by omega) h.outputs_even hlarge himage hin h.channels_eq

/-- A convolution that was bound found pixels. -/
theorem Binding.convolve_finds_pixels {kind : Layer → Action} {layer : Layer}
    {p : Primitive}
    (h : Binding.convolve name kind layer input handle b = .ok p b')
    (hin : b.arena.shape? input = some image) :
    0 < image.height ∧ 0 < image.width := by
  obtain ⟨image', _, hin', hplaces, -⟩ := Binding.convolve_eq_ok_iff.1 h
  obtain rfl := Option.some.inj (hin.symm.trans hin')
  exact ⟨hplaces.1.input_pos, hplaces.2.input_pos⟩

/-- A main branch that was bound has an image with pixels. -/
theorem MainBranch.setup_finds_pixels {layers : MainLayers} {main : MainBranch}
    (h : MainBranch.setup name input layers handle b = .ok main b')
    (hin : b.arena.shape? input = some image) :
    0 < image.height ∧ 0 < image.width := by
  obtain ⟨after, hafter, -⟩ := Binding.balanced_eq_ok_iff.1 h
  obtain ⟨reduce, b₁, hreduce, -⟩ := Step.bind_eq_ok_iff.1 hafter
  exact Binding.convolve_finds_pixels hreduce hin

/-- A side branch with padded windows found channels, and an image that can
be padded. -/
theorem SideLayers.Strides.paddable_of_setup {layers : SideLayers}
    {side : SideBranch} (hlayers : layers.Strides outputs inputs stride)
    (h : SideBranch.setup name input layers handle b = .ok side b')
    (hin : b.arena.shape? input = some image) :
    image.Paddable ∧ 0 < image.channels := by
  obtain ⟨after, hafter, -⟩ := Binding.balanced_eq_ok_iff.1 h
  obtain ⟨depthwise, b₁, hdepthwise, -⟩ := Step.bind_eq_ok_iff.1 hafter
  obtain ⟨image', _, hin', hplaces, -, -, hcheck, -⟩ :=
    Binding.convolve_eq_ok_iff.1 hdepthwise
  obtain rfl := Option.some.inj (hin.symm.trans hin')
  obtain ⟨-, ⟨hpos, hchannels⟩, -⟩ := Action.check_depthwise_eq_ok_iff.1 hcheck
  rw [hlayers.depthwise.window_eq] at hplaces
  exact ⟨⟨hplaces.1.input_pos, hplaces.2.input_pos, hplaces.1.padded_lt,
    hplaces.2.padded_lt⟩, hchannels ▸ hpos⟩

namespace Block

variable {layers : BlockLayers} {block : Block}

/-- A declared block that was bound was admitted, by an image that can be
padded. -/
theorem admits_of_setup
    (hdeclared : BlockLayers.declare? outputs inputs stride
      = some (layers.map Layer.blank))
    (h : setup name input layers handle b = .ok block b')
    (hin : b.arena.shape? input = some image) :
    image.Admits outputs inputs stride ∧ image.Paddable := by
  obtain ⟨b₁, image', half, hbinds⟩ := exists_binds h
  obtain rfl := Option.some.inj (hin.symm.trans hbinds.input_shape)
  obtain ⟨houtputs, hinputs, hstride⟩ :=
    BlockLayers.fields_of_declared hdeclared
  have hchannels : image.channels = inputs := hbinds.inputs_eq.trans hinputs
  have hwidth : outputs = 2 * half.channels :=
    houtputs.symm.trans hbinds.outputs_eq
  have hhalf := hbinds.half_pos
  rcases setupPath_cases hbinds.path with
    ⟨image', split, main, b₂, ⟨hone, -, hsame⟩, himage', hfits,
      hsplit, hmain, -⟩
      | ⟨sideLayers, side, main, b₂, hlarge, hside, hbranch, -⟩
  · -- the main branch saw the pixels of the image in its second half
    obtain ⟨_, _, _, -, -, -, -, -, rfl⟩ := Split.setup_eq_ok_iff.1 hsplit
    have hsecond :
      (b.arena.grow [image', image']).shape? ⟨b.arena.tensors.size + 1⟩
        = some image' := Arena.shape?_grow_added (i := 1)
    obtain ⟨hheight, hwidth'⟩ := MainBranch.setup_finds_pixels hmain hsecond
    have hequal : inputs = outputs := by omega
    have hpos : 0 < image'.channels := by
      rw [himage']
      show 0 < image.channels / 2
      omega
    obtain ⟨-, -, hheightLt, hwidthLt⟩ := hfits.paddable hheight hwidth' hpos
    rw [himage'] at hheight hwidth' hheightLt hwidthLt
    exact ⟨⟨hchannels, by omega, by omega, by omega, hheight, hwidth', by
      omega, fun _ => hequal⟩, hheight, hwidth', hheightLt, hwidthLt⟩
  · obtain ⟨s, hs, hstrides⟩ :=
      (BlockLayers.strides_of_declared (by omega) hdeclared).side
    obtain rfl := Option.some.inj (hside.symm.trans hs)
    obtain ⟨hpaddable, hpos⟩ := hstrides.paddable_of_setup hbranch hin
    exact ⟨⟨hchannels, by omega, by omega, by
      omega, hpaddable.height_pos, hpaddable.width_pos,
      by omega, by omega⟩, hpaddable⟩

/-- A declared block is bound exactly if the image admits it and its tensors
fit. Its result is the image at every `stride`-th pixel, with the declared
outputs for channels. -/
theorem setup_declared_iff
    (hdeclared : BlockLayers.declare? outputs inputs stride = some layers)
    (hin : b.arena.shape? input = some image) :
    ((∃ block b', setup name input layers handle b = .ok block b')
      ↔ image.Admits outputs inputs stride
        ∧ ∀ s ∈ image.blockTensors outputs stride, s.Fits)
    ∧ ∀ block b', setup name input layers handle b = .ok block b' →
      b'.arena.shape? block.output
        = some ⟨(image.height - 1) / stride + 1, (image.width - 1) / stride + 1,
          outputs⟩ := by
  have hblank : BlockLayers.declare? outputs inputs stride
      = some (layers.map Layer.blank) := by
    rw [BlockLayers.blank_of_declare hdeclared, hdeclared]
  have hallocates (hadmits : image.Admits outputs inputs stride)
    (himage : image.Paddable) :
      Allocates (setup name input layers handle) b.arena
        (image.blockTensors outputs stride)
        (·.output = ⟨b.arena.tensors.size + 5⟩) :=
    BlockLayers.allocates_of_declared hblank hadmits himage hin
  refine ⟨⟨?_, ?_⟩, ?_⟩
  · intro hbound
    obtain ⟨block, b', h⟩ := hbound
    obtain ⟨hadmits, himage⟩ := admits_of_setup hblank h hin
    exact ⟨hadmits, ((hallocates hadmits himage).allocated b b' block rfl h).1⟩
  · intro hall
    obtain ⟨hadmits, hfits⟩ := hall
    exact (hallocates hadmits (hadmits.paddable hfits)).succeeds b rfl hfits
  · intro block b' h
    obtain ⟨hadmits, himage⟩ := admits_of_setup hblank h hin
    obtain ⟨-, harena, hout⟩ :=
      (hallocates hadmits himage).allocated b b' block rfl h
    rw [harena, hout, Shape.blockTensors]
    -- with stride one the formula comes to the shape of the image
    by_cases hone : stride = 1
    · obtain rfl := hone
      have hsame : (⟨(image.height - 1) / 1 + 1, (image.width - 1) / 1 + 1,
        outputs⟩ : Shape)
          = image := by
        have hheight := hadmits.height_pos
        have hwidth := hadmits.width_pos
        rw [← hadmits.same_width rfl, ← hadmits.channels_eq, Nat.div_one,
          Nat.div_one, Nat.sub_add_cancel hheight, Nat.sub_add_cancel hwidth]
      rw [if_pos rfl, hsame]
      exact Arena.shape?_grow_added (i := 5)
    · rw [if_neg hone]
      exact Arena.shape?_grow_added (i := 5)

/-- A stride larger than the image, over an odd number of channels. -/
theorem setup_declared_iff_large_stride :
    ∃ (layers : BlockLayers) (block : Block) (b' : Bench),
      BlockLayers.declare? 4 3 7 = some layers
        ∧ setup "block" ⟨0⟩ layers ⟨.scalar⟩
          (Bench.ofArena (Arena.empty.grow [⟨5, 9, 3⟩]))
          = .ok block b'
        ∧ b'.arena.shape? block.output = some ⟨1, 2, 4⟩ := by
  obtain ⟨layers, hdeclared⟩ : ∃ layers,
    BlockLayers.declare? 4 3 7 = some layers := ⟨_, rfl⟩
  obtain ⟨hiff, hshape⟩ : ((∃ block b', setup "block" ⟨0⟩ layers ⟨.scalar⟩
      (Bench.ofArena (Arena.empty.grow [⟨5, 9, 3⟩])) = .ok block b') ↔ _) ∧ _ :=
    setup_declared_iff hdeclared rfl
  obtain ⟨block, b', hbound⟩ :=
    hiff.2 ⟨⟨rfl, by decide, rfl, by decide, by decide, by decide,
    by decide, by decide⟩, by decide⟩
  exact ⟨layers, block, b', hdeclared, hbound, hshape block b' hbound⟩

end Block

end FireNet
