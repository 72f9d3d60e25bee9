/-
The tensors of a declared block. A block over an image allocates six
tensors, whichever path it takes: five of half its width and its result.
Only their heights and widths depend on the path: a block with a stride
takes it in the depthwise convolution of each branch, and a stride of two
halves the image.

Declared layers pass every check of their set-up, down to images of one
pixel: the windows of the network always fit when they are padded.

A set-up is followed along its steps by the tensors that it allocates
(`Allocates`). That the tensors fit is assumed step by step, where they are
allocated, and it is all that is assumed: an image with pixels whose padded
extents are words stays one under every operator of a block
(`Shape.Paddable`), so no formula of a size overflows on the way.
-/
import FireNet.Operator.Stage
import FireNet.Proofs.Operator.Allocates
import FireNet.Proofs.Weights.Declared

set_option autoImplicit false

namespace FireNet

-- =============================================================== images

/-- An image that is not empty and can be padded by one pixel all around. -/
structure Shape.Paddable (s : Shape) : Prop where
  height_pos : 0 < s.height
  width_pos : 0 < s.width
  height_lt : s.height + 2 < Size.limit
  width_lt : s.width + 2 < Size.limit

/-- The image with half the extents, rounded up. -/
def Shape.halved (s : Shape) (channels : Nat) : Shape :=
  ⟨(s.height + 1) / 2, (s.width + 1) / 2, channels⟩

/-- The image at every `stride`-th pixel, from the first one on. -/
def Shape.strided (s : Shape) (stride channels : Nat) : Shape :=
  ⟨(s.height - 1) / stride + 1, (s.width - 1) / stride + 1, channels⟩

/-- The tensors of a block whose branches step over the image by `stride`. -/
def Shape.stridedTensors (image : Shape) (stride width : Nat) : List Shape :=
  [image.strided stride image.channels, image.strided stride (width / 2),
    image.withChannels (width / 2), image.strided stride (width / 2),
    image.strided stride (width / 2), image.strided stride width]

/-- The tensors of a block that halves the image. -/
def Shape.downsampleTensors (image : Shape) (width : Nat) : List Shape :=
  [image.halved image.channels, image.halved (width / 2),
    image.withChannels (width / 2),
    image.halved (width / 2), image.halved (width / 2), image.halved width]

/-- The image with half the channels. -/
def Shape.half (image : Shape) : Shape :=
  image.withChannels (image.channels / 2)

/-- The tensors of a block that keeps the size. -/
def Shape.keepTensors (image : Shape) : List Shape :=
  [image.half, image.half, image.half, image.half, image.half, image]

/-- A strided image can be padded, if the image can. -/
theorem Shape.Paddable.strided {s : Shape} (h : s.Paddable)
    (stride channels : Nat) :
    (s.strided stride channels).Paddable := by
  have hheight := h.height_lt
  have hwidth := h.width_lt
  have hheightPos := h.height_pos
  have hwidthPos := h.width_pos
  have hrows := Nat.div_le_self (s.height - 1) stride
  have hcolumns := Nat.div_le_self (s.width - 1) stride
  constructor
  · exact Nat.succ_pos _
  · exact Nat.succ_pos _
  · show (s.height - 1) / stride + 1 + 2 < Size.limit
    omega
  · show (s.width - 1) / stride + 1 + 2 < Size.limit
    omega

/-- Every other pixel is half of them, rounded up. -/
theorem Shape.Paddable.strided_two {s : Shape} (h : s.Paddable)
    (channels : Nat) :
    s.strided 2 channels = s.halved channels := by
  have hheightPos := h.height_pos
  have hwidthPos := h.width_pos
  rw [Shape.strided, Shape.halved, Shape.mk.injEq]
  omega

theorem Shape.Paddable.halved {s : Shape} (h : s.Paddable) (channels : Nat) :
    (s.halved channels).Paddable :=
  h.strided_two channels ▸ h.strided 2 channels

theorem Shape.Paddable.withChannels {s : Shape} (h : s.Paddable)
    (channels : Nat) :
    (s.withChannels channels).Paddable :=
  ⟨h.height_pos, h.width_pos, h.height_lt, h.width_lt⟩

/-- An image that is not empty and fits can be padded. -/
theorem Shape.Fits.paddable {s : Shape} (h : s.Fits) (hheight : 0 < s.height)
    (hwidth : 0 < s.width) (hchannels : 0 < s.channels) : s.Paddable := by
  have hbytes : s.height * s.width * s.channels * 4 ≤ Size.maxBytes := h.2
  have hmax : Size.maxBytes < Size.limit := by decide
  have hpixels := Nat.le_mul_of_pos_right (s.height * s.width) hchannels
  have hrows := Nat.le_mul_of_pos_right s.height hwidth
  have hcolumns := Nat.le_mul_of_pos_left s.width hheight
  exact ⟨hheight, hwidth, by omega, by omega⟩

/-- The places of an undilated axis over an input. -/
theorem Axis.places_undilated {kernel stride padding n places : Nat}
    (hkernel : 0 < kernel) (hstride : 0 < stride) (hn : 0 < n)
    (hlt : n + 2 * padding < Size.limit) (hle : kernel ≤ n + 2 * padding)
    (hplaces : places = (n + 2 * padding - kernel) / stride + 1) :
    (Axis.mk kernel stride padding 1).Places n places := by
  have hextent : (Axis.mk kernel stride padding 1).extent = kernel := by
    show (kernel - 1) * 1 + 1 = kernel
    omega
  refine ⟨hkernel, hstride, Nat.one_pos, hn, hlt, ?_, ?_⟩
  · rw [hextent]
    exact hle
  · rw [hextent]
    exact hplaces

namespace Shape.Paddable

variable {image : Shape}

/-- A single cell visits every pixel. -/
theorem places_single (h : image.Paddable) :
    (Window.square 1 1 0).Places image.height image.width
      (image.height, image.width) := by
  obtain ⟨hheight, hwidth, hheightLt, hwidthLt⟩ := h
  constructor
  · exact Axis.places_undilated (by decide) (by decide) hheight (by omega)
      (by omega) (by omega)
  · exact Axis.places_undilated (by decide) (by decide) hwidth (by omega)
      (by omega) (by omega)

/-- A padded window of three cells keeps the size. -/
theorem places_padded (h : image.Paddable) :
    (Window.square 3 1 1).Places image.height image.width
      (image.height, image.width) := by
  obtain ⟨hheight, hwidth, hheightLt, hwidthLt⟩ := h
  constructor
  · exact Axis.places_undilated (by decide) (by decide) hheight (by omega)
      (by omega) (by omega)
  · exact Axis.places_undilated (by decide) (by decide) hwidth (by omega)
      (by omega) (by omega)

/-- It visits every `stride`-th pixel. -/
theorem places_strided (h : image.Paddable) {stride : Nat}
    (hstride : 0 < stride) (channels : Nat) :
    (Window.square 3 stride 1).Places image.height image.width
      ((image.strided stride channels).height,
        (image.strided stride channels).width) := by
  obtain ⟨hheight, hwidth, hheightLt, hwidthLt⟩ := h
  constructor
  · refine Axis.places_undilated (by decide) hstride hheight (by omega)
      (by omega) ?_
    show (image.height - 1) / stride + 1 = _
    rw [show image.height + 2 * 1 - 3 = image.height - 1 by omega]
  · refine Axis.places_undilated (by decide) hstride hwidth (by omega)
      (by omega) ?_
    show (image.width - 1) / stride + 1 = _
    rw [show image.width + 2 * 1 - 3 = image.width - 1 by omega]

/-- At every other pixel, it halves the size. -/
theorem places_halving (h : image.Paddable) (channels : Nat) :
    (Window.square 3 2 1).Places image.height image.width
      ((image.halved channels).height, (image.halved channels).width) :=
  h.strided_two channels ▸ h.places_strided (by decide) channels

end Shape.Paddable

-- =============================================================== layers

variable {name : String} {handle : Handle} {a : Arena} {input : TensorId}
  {image outShape : Shape} {layer : Layer} {w : Window}
  {outputs inputs channels : Nat}

/-- A declared convolution passes its check over every image of its
channels. -/
theorem Layer.Convolves.check {op : String}
    (h : layer.Convolves outputs inputs w) (hinputs : 0 < inputs)
    (houtputs : 0 < outputs)
    (hdilation : w.vertical.dilation = 1 ∧ w.horizontal.dilation = 1)
    (hin : image.channels = inputs) (hout : outShape.channels = outputs)
    (hplaces : w.Places image.height image.width
      (outShape.height, outShape.width)) :
    (Action.convolution layer).check op image outShape = .ok () := by
  rw [Action.check_convolution_eq_ok_iff, h.inputs_eq, h.outputs_eq,
    h.window_eq]
  exact ⟨⟨hinputs, hin⟩, ⟨houtputs, hout⟩, hdilation, hplaces, h.weights_eq,
    h.bias_covers⟩

/-- A layer that filters channels passes the check of its action. -/
theorem Layer.FiltersChannels.check {op : String}
    (h : layer.FiltersChannels channels w) (hpos : 0 < channels)
    (hdilation : w.vertical.dilation = 1 ∧ w.horizontal.dilation = 1)
    (hin : image.channels = channels) (hout : outShape.channels = channels)
    (hplaces : w.Places image.height image.width
      (outShape.height, outShape.width)) :
    (Action.depthwise layer).check op image outShape = .ok () := by
  rw [Action.check_depthwise_eq_ok_iff, h.inputs_eq, h.outputs_eq, h.window_eq]
  exact ⟨rfl, ⟨hpos, hin⟩, ⟨hpos, hout⟩, hdilation, hplaces, h.weights_eq,
    h.bias_covers⟩

/-- The mean over an image that is not empty passes its check. -/
theorem Action.check_meanPool {op : String} (hfits : image.Fits)
    (himage : image.Paddable) (hpos : 0 < image.channels) :
    Action.meanPool.check op image ⟨1, 1, image.channels⟩ = .ok () :=
  Action.check_meanPool_eq_ok_iff.2 ⟨⟨_, Size.mul_eq_some_iff.2 ⟨hfits.1, rfl⟩,
    Nat.mul_pos himage.height_pos himage.width_pos⟩, ⟨hpos, rfl⟩, rfl, rfl⟩

/-- A declared fully connected layer passes its check over its features. -/
theorem Layer.Connects.check {op : String} (h : layer.Connects outputs inputs)
    (hpos : 0 < inputs) (hin : (Shape.mk 1 1 inputs).Fits)
    (hout : (Shape.mk 1 1 outputs).Fits) :
    (Action.fullyConnected layer).check op ⟨1, 1, inputs⟩ ⟨1, 1, outputs⟩
      = .ok () := by
  have hvolume : ∀ n : Nat, (Shape.mk 1 1 n).volume = n :=
    fun n => Nat.one_mul n
  rw [Action.check_fullyConnected_eq_ok_iff, h.inputs_eq, h.outputs_eq,
    hin.size?_eq, hout.size?_eq, hvolume, hvolume]
  exact ⟨hpos, rfl, rfl, h.weights_eq, h.bias_covers⟩

/-- A declared convolution allocates the places of its window. -/
theorem Layer.Convolves.allocates (outShape : Shape)
    (h : layer.Convolves outputs inputs w) (hinputs : 0 < inputs)
    (houtputs : 0 < outputs)
    (hdilation : w.vertical.dilation = 1 ∧ w.horizontal.dilation = 1)
    (hin : a.shape? input = some image) (hchannels : image.channels = inputs)
    (hout : outShape.channels = outputs)
    (hplaces : w.Places image.height image.width
      (outShape.height, outShape.width)) :
    Allocates (Binding.convolve name .convolution layer input handle)
      a [outShape] (·.output = ⟨a.tensors.size⟩) :=
  Binding.convolve_allocates hin (h.window_eq ▸ hplaces)
    (hout.trans h.outputs_eq.symm)
    (h.check hinputs houtputs hdilation hchannels hout hplaces)

/-- And it is bound with the one tensor that it writes. -/
theorem Layer.FiltersChannels.allocates (outShape : Shape)
    (h : layer.FiltersChannels channels w) (hpos : 0 < channels)
    (hdilation : w.vertical.dilation = 1 ∧ w.horizontal.dilation = 1)
    (hin : a.shape? input = some image) (hchannels : image.channels = channels)
    (hout : outShape.channels = channels)
    (hplaces : w.Places image.height image.width
      (outShape.height, outShape.width)) :
    Allocates (Binding.convolve name .depthwise layer input handle) a [outShape]
      (·.output = ⟨a.tensors.size⟩) :=
  Binding.convolve_allocates hin (h.window_eq ▸ hplaces)
    (hout.trans h.outputs_eq.symm)
    (h.check hpos hdilation hchannels hout hplaces)

-- ============================================================= branches

variable {half : Nat}

/-- The side branch steps over the image first. -/
theorem SideLayers.Strides.allocates {layers : SideLayers} {width stride : Nat}
    (h : layers.Strides width inputs stride) (hinputs : 0 < inputs)
    (hhalf : 0 < width / 2) (hstride : 0 < stride) (himage : image.Paddable)
    (hin : a.shape? input = some image) (hchannels : image.channels = inputs) :
    Allocates (SideBranch.setup name input layers handle) a
      [image.strided stride inputs, image.strided stride (width / 2)]
      (·.output = ⟨a.tensors.size + 1⟩) := by
  refine .balanced (.bind [image.strided stride inputs]
    (h.depthwise.allocates (image.strided stride inputs) hinputs
      ⟨rfl, rfl⟩ hin hchannels rfl
      (himage.places_strided hstride inputs)) fun _ depthwise hdepthwise => ?_)
  have hmid : (a.grow [image.strided stride inputs]).shape? depthwise.output
      = some (image.strided stride inputs) := by
    rw [hdepthwise]
    exact Arena.shape?_grow_added (i := 0)
  refine .bind [image.strided stride (width / 2)]
    (h.pointwise.allocates (image.strided stride (width / 2)) hinputs hhalf
      ⟨rfl, rfl⟩ hmid rfl rfl
      (himage.strided stride inputs).places_single)
        fun _ pointwise hpointwise => .pure ?_
  show pointwise.output = _
  rw [hpointwise, Arena.size_grow]
  rfl

/-- The main branch puts its stride behind the first convolution. -/
theorem MainLayers.Follows.allocates {layers : MainLayers} {stride : Nat}
    (h : layers.Follows half inputs stride) (hinputs : 0 < inputs)
    (hhalf : 0 < half) (himage : image.Paddable)
    (hin : a.shape? input = some image) (hchannels : image.channels = inputs)
    {out : Shape} (hout : out.Paddable) (houtChannels : out.channels = half)
    (hplaces : (Window.square 3 stride 1).Places image.height image.width
      (out.height, out.width)) :
    Allocates (MainBranch.setup name input layers handle) a
      [image.withChannels half, out, out]
      (·.output = ⟨a.tensors.size + 2⟩) := by
  refine .balanced (.bind [image.withChannels half]
    (h.reduce.allocates (image.withChannels half) hinputs hhalf
      ⟨rfl, rfl⟩ hin hchannels rfl
      himage.places_single) fun _ reduce hreduce => ?_)
  have hmid : (a.grow [image.withChannels half]).shape? reduce.output
      = some (image.withChannels half) := by
    rw [hreduce]
    exact Arena.shape?_grow_added (i := 0)
  refine .bind [out]
    (h.depthwise.allocates out hhalf ⟨rfl, rfl⟩ hmid rfl houtChannels
    hplaces) fun _ depthwise hdepthwise => ?_
  have hmid' : ((a.grow [image.withChannels half]).grow
    [out]).shape? depthwise.output
      = some out := by
    rw [hdepthwise]
    exact Arena.shape?_grow_added (i := 0)
  refine .bind [out]
    (h.expand.allocates out hhalf hhalf ⟨rfl, rfl⟩ hmid' houtChannels
    houtChannels hout.places_single) fun _ expand hexpand => .pure ?_
  show expand.output = _
  rw [hexpand, Arena.size_grow, Arena.size_grow]
  rfl

-- ============================================================= channels

/-- Twice the channels of an image that fits are still a size. -/
theorem Shape.Fits.channels_lt {s : Shape} (h : s.Fits) (himage : s.Paddable) :
    s.channels + s.channels < Size.limit := by
  have hbytes : s.height * s.width * s.channels * 4 ≤ Size.maxBytes := h.2
  have hmax : Size.maxBytes < Size.limit := by decide
  have hle : s.channels ≤ s.height * s.width * s.channels :=
    Nat.le_mul_of_pos_left _ (Nat.mul_pos himage.height_pos himage.width_pos)
  omega

variable {first second : TensorId} {halfShape : Shape}

/-- Binding a split into two new tensors allocates nothing. -/
theorem Split.setup_allocates (hin : a.shape? input = some image)
    (hfirst : a.shape? first = some halfShape)
    (hsecond : a.shape? second = some halfShape)
    (hcheck : Split.check name image halfShape halfShape (first == second)
      = .ok ()) :
    Allocates (Split.setup name input first second) a [] (·.first = first) :=
  .of_keeps (x := ⟨name, input, first, second, image, halfShape⟩) (fun _ hb =>
    ⟨_, Split.setup_eq_ok_iff.2
      ⟨image, halfShape, halfShape, hb ▸ hin, hb ▸ hfirst,
      hb ▸ hsecond, hcheck, rfl, rfl⟩, hb⟩) rfl

/-- Binding an interleave allocates nothing. -/
theorem Interleave.setup_allocates {output : TensorId}
    (hfirst : a.shape? first = some halfShape)
    (hsecond : a.shape? second = some halfShape)
    (hout : a.shape? output = some outShape)
    (hcheck : Interleave.check name halfShape halfShape outShape
      (output == first || output == second) = .ok ()) :
    Allocates (Interleave.setup name first second output) a []
      (·.output = output) :=
  .of_keeps (x := ⟨name, first, second, output, halfShape, outShape⟩)
    (fun _ hb =>
    ⟨_, Interleave.setup_eq_ok_iff.2
      ⟨halfShape, halfShape, outShape, hb ▸ hfirst,
      hb ▸ hsecond, hb ▸ hout, hcheck, rfl, rfl⟩, hb⟩) rfl

-- =============================================================== blocks

variable {width : Nat} {layers : BlockLayers}

/-- Both results of a path are there, in one shape. -/
structure BlockPath.Leaves (path : BlockPath) (a : Arena) (halfShape : Shape) :
    Prop where
  first_shape : a.shape? path.first = some halfShape
  second_shape : a.shape? path.second = some halfShape

/-- The way through a block that strides, with the tensors that it adds. -/
theorem BlockLayers.Strides.path_allocates {stride : Nat}
    (h : layers.Strides width inputs stride) (hinputs : 0 < inputs)
    (hhalf : 0 < width / 2) (hstride : 1 < stride) (himage : image.Paddable)
    (hin : a.shape? input = some image) (hchannels : image.channels = inputs) :
    Allocates (Block.setupPath name input image layers handle) a
      (image.stridedTensors stride width).dropLast
      (·.Leaves (a.grow (image.stridedTensors stride width).dropLast)
        (image.strided stride (width / 2))) := by
  obtain ⟨side, hside, hstrides⟩ := h.side
  obtain ⟨n, rfl⟩ : ∃ n, stride = n + 2 := ⟨stride - 2, by omega⟩
  have hpath : Block.setupPath name input image layers handle = (do
      let side ← SideBranch.setup s!"{name}.branch1" input side handle
      let main ← MainBranch.setup s!"{name}.branch2" input layers.main handle
      pure (.downsample side main)) := by
    rw [Block.setupPath, h.stride_eq, hside]
    rfl
  rw [hpath]
  subst hchannels
  refine .bind [image.strided (n + 2) image.channels,
    image.strided (n + 2) (width / 2)]
    (hstrides.allocates hinputs hhalf (by omega) himage hin rfl)
      fun _ side' hside' => ?_
  refine .bind [image.withChannels (width / 2),
    image.strided (n + 2) (width / 2),
    image.strided (n + 2) (width / 2)] (h.main.allocates hinputs hhalf himage
      (Arena.shape?_grow_of_some hin) rfl
        (himage.strided (n + 2) (width / 2)) rfl
      (himage.places_strided (by omega) (width / 2))) fun _ main hmain =>
        .pure ⟨?_, ?_⟩
  · show Arena.shape? _ side'.output = _
    rw [hside']
    exact Arena.shape?_grow_added (i := 1)
  · show Arena.shape? _ main.output = _
    rw [hmain, Arena.size_grow]
    exact Arena.shape?_grow_added (i := 4)

/-- The way through a block that keeps its image. -/
theorem BlockLayers.Keeps.path_allocates (h : layers.Keeps width)
    (heven : width % 2 = 0) (hhalf : 0 < width / 2) (himage : image.Paddable)
    (hin : a.shape? input = some image) (hchannels : image.channels = width) :
    Allocates (Block.setupPath name input image layers handle) a
      image.keepTensors.dropLast
      (·.Leaves (a.grow image.keepTensors.dropLast) image.half) := by
  have hpath : Block.setupPath name input image layers handle = (do
      let a ← Binding.alloc image.half
      let b ← Binding.alloc image.half
      let split ← Split.setup s!"{name}.split" input a b
      let main ← MainBranch.setup s!"{name}.branch2" b layers.main handle
      pure (.keep split main)) := by
    rw [Block.setupPath, h.stride_eq, h.side_eq, h.inputs_eq, h.outputs_eq]
    exact if_neg (by simp)
  rw [hpath]
  subst hchannels
  have hhalfImage : image.half.Paddable := himage.withChannels _
  refine .bind_alloc fun hfits => .bind_alloc fun _ => ?_
  rw [Arena.grow_grow, Arena.size_grow, List.length_singleton]
  -- the halves are the two newest tensors, and the image is older
  have hin' : (a.grow [image.half, image.half]).shape? input = some image :=
    Arena.shape?_grow_of_some hin
  have hfirst : (a.grow [image.half, image.half]).shape? ⟨a.tensors.size⟩
      = some image.half :=
    Arena.shape?_grow_added (i := 0)
  have hsecond : (a.grow [image.half, image.half]).shape? ⟨a.tensors.size + 1⟩
      = some image.half :=
    Arena.shape?_grow_added (i := 1)
  have hlt := hfits.channels_lt hhalfImage
  refine .bind_nil (Split.setup_allocates hin' hfirst hsecond ?_)
    fun split hsplit => ?_
  · refine Split.check_eq_ok_iff.2
      ⟨⟨by omega, heven⟩, rfl, ⟨hlt, ?_⟩, ⟨rfl, rfl⟩, ?_⟩
    · show image.channels / 2 + image.channels / 2 = image.channels
      omega
    · rw [beq_eq_false_iff_ne]
      intro heq
      have := TensorId.mk.inj heq
      omega
  refine .bind [image.half, image.half, image.half]
    (h.main.allocates hhalf hhalf hhalfImage
    hsecond rfl hhalfImage rfl hhalfImage.places_padded) fun _ main hmain =>
      .pure ⟨?_, ?_⟩
  · show Arena.shape? _ split.first = _
    rw [hsplit]
    exact Arena.shape?_grow_added (i := 0)
  · show Arena.shape? _ main.output = _
    rw [hmain, Arena.size_grow]
    exact Arena.shape?_grow_added (i := 4)

/-- Behind a path, a block allocates its result. -/
theorem Block.setup_allocates {tensors : List Shape} {halfShape : Shape}
    (hinputs : layers.inputs = image.channels)
    (hwidth : 0 < layers.outputs ∧ layers.outputs % 2 = 0)
    (hhalf : halfShape.channels = layers.outputs / 2)
    (hpadded : halfShape.Paddable)
    (hfits : (∀ s ∈ tensors, s.Fits) → halfShape.Fits)
    (hin : a.shape? input = some image)
    (hpath : Allocates (Block.setupPath name input image layers handle) a
      tensors (·.Leaves (a.grow tensors) halfShape)) :
    Allocates (Block.setup name input layers handle) a
      (tensors ++ [halfShape.withChannels layers.outputs])
      (·.output = ⟨a.tensors.size + tensors.length⟩) := by
  refine .balanced (.bind_shapeOf hin ?_)
  refine .guard (fun hne => hne hinputs.symm) (.guard (by omega) ?_)
  refine .bind tensors hpath fun hall path hleaves => ?_
  refine .bind_shapeOf hleaves.first_shape (.bind_alloc fun _ => ?_)
  have hnew : ((a.grow tensors).grow
    [halfShape.withChannels layers.outputs]).shape?
      ⟨(a.grow tensors).tensors.size⟩
        = some (halfShape.withChannels layers.outputs) :=
    Arena.shape?_grow_added (i := 0)
  have hfirst := Arena.shape?_eq_some_lt hleaves.first_shape
  have hsecond := Arena.shape?_eq_some_lt hleaves.second_shape
  have hsum : halfShape.channels + halfShape.channels = layers.outputs := by
    omega
  -- the result is newer than both halves, so it is neither of them
  have hcheck : Interleave.check s!"{name}.shuffle" halfShape halfShape
      (halfShape.withChannels layers.outputs)
      (TensorId.mk (a.grow tensors).tensors.size == path.first
        || TensorId.mk (a.grow tensors).tensors.size == path.second)
          = .ok () := by
    refine Interleave.check_eq_ok_iff.2
      ⟨rfl, by omega, (hfits hall).channels_lt hpadded, by rw [hsum], ?_⟩
    rw [Bool.or_eq_false_iff, beq_eq_false_iff_ne, beq_eq_false_iff_ne]
    constructor
    · intro heq
      rw [← heq] at hfirst
      exact Nat.lt_irrefl _ hfirst
    · intro heq
      rw [← heq] at hsecond
      exact Nat.lt_irrefl _ hsecond
  refine .bind_nil
    (Interleave.setup_allocates (Arena.shape?_grow_of_some hleaves.first_shape)
    (Arena.shape?_grow_of_some hleaves.second_shape) hnew hcheck)
      fun shuffle hshuffle => ?_
  refine .bind_nil .note fun _ _ => .pure ?_
  show shuffle.output = _
  rw [hshuffle, Arena.size_grow]

/-- A declared block with a stride allocates its six tensors. -/
theorem BlockLayers.Strides.allocates {stride : Nat}
    (h : layers.Strides width inputs stride) (hinputs : 0 < inputs)
    (hpos : 0 < width) (heven : width % 2 = 0) (hstride : 1 < stride)
    (himage : image.Paddable) (hin : a.shape? input = some image)
    (hchannels : image.channels = inputs) :
    Allocates (Block.setup name input layers handle) a
      (image.stridedTensors stride width)
      (·.output = ⟨a.tensors.size + 5⟩) := by
  have hpath : Allocates (Block.setupPath name input image layers
      handle) a _ _ :=
    h.path_allocates hinputs (by omega) hstride himage hin hchannels
  have hblock := Block.setup_allocates (h.inputs_eq.trans hchannels.symm)
    (by rw [h.outputs_eq]; exact ⟨hpos, heven⟩) (by rw [h.outputs_eq]; rfl)
    (himage.strided stride (width / 2))
    (fun hfits => hfits _ (List.mem_cons_of_mem _ List.mem_cons_self)) hin hpath
  rw [h.outputs_eq] at hblock
  exact hblock

/-- A first block, with the five tensors before its output. -/
theorem BlockLayers.Downsamples.allocates (h : layers.Downsamples width inputs)
    (hinputs : 0 < inputs) (hpos : 0 < width) (heven : width % 2 = 0)
    (himage : image.Paddable) (hin : a.shape? input = some image)
    (hchannels : image.channels = inputs) :
    Allocates (Block.setup name input layers handle) a
      (image.downsampleTensors width)
      (·.output = ⟨a.tensors.size + 5⟩) := by
  have htensors :
      image.stridedTensors 2 width = image.downsampleTensors width := by
    simp only [Shape.stridedTensors, Shape.downsampleTensors,
      himage.strided_two]
  rw [← htensors]
  exact (BlockLayers.downsamples_iff.1 h).allocates hinputs hpos heven
    (by decide) himage hin hchannels

/-- A declared block that keeps the size allocates its six tensors. -/
theorem BlockLayers.Keeps.allocates (h : layers.Keeps width) (hpos : 0 < width)
    (heven : width % 2 = 0) (himage : image.Paddable)
    (hin : a.shape? input = some image) (hchannels : image.channels = width) :
    Allocates (Block.setup name input layers handle) a image.keepTensors
      (·.output = ⟨a.tensors.size + 5⟩) := by
  have hpath : Allocates (Block.setupPath name input image layers
      handle) a _ _ :=
    h.path_allocates heven (by omega) himage hin hchannels
  have hblock := Block.setup_allocates (h.inputs_eq.trans hchannels.symm)
    (by rw [h.outputs_eq]; exact ⟨hpos, heven⟩)
      (by rw [h.outputs_eq, ← hchannels]; rfl)
    (himage.withChannels _) (fun hfits => hfits _ List.mem_cons_self) hin hpath
  rw [h.outputs_eq, ← hchannels] at hblock
  exact hblock

-- =============================================================== stages

/-- The tensors of a stage of `repeats` blocks. -/
def Shape.stageTensors (image : Shape) (repeats width : Nat) : List Shape :=
  image.downsampleTensors width
    ++ (List.replicate (repeats - 1) (image.halved width).keepTensors).flatten

/-- Blocks that keep the size, each bound to the one before it. -/
theorem Stage.setupBlocks_allocates {layers : List BlockLayers} {index : Nat}
    (hkeeps : ∀ l ∈ layers, l.Keeps width) (hpos : 0 < width)
    (heven : width % 2 = 0) (himage : image.Paddable)
    (hchannels : image.channels = width) {block : Block}
    (hin : a.shape? block.output = some image) :
    Allocates (Stage.setupBlocks name handle index block.output layers) a
      (List.replicate layers.length image.keepTensors).flatten
      (fun blocks =>
        (a.grow (List.replicate layers.length image.keepTensors).flatten).shape?
        (blocks.getLastD block).output = some image) := by
  induction layers generalizing a index block with
  | nil =>
      refine .pure ?_
      rw [List.length_nil, List.replicate_zero, List.flatten_nil,
        Arena.grow_nil]
      exact hin
  | cons l rest ih =>
      rw [List.length_cons, List.replicate_succ, List.flatten_cons]
      refine .bind image.keepTensors
        ((hkeeps l List.mem_cons_self).allocates hpos heven himage
        hin hchannels) fun _ next hnext => ?_
      have hnext' : (a.grow image.keepTensors).shape? next.output
          = some image := by
        rw [hnext]
        exact Arena.shape?_grow_added (i := 5)
      refine .bind_last _
        (ih (fun l' hl' => hkeeps l' (List.mem_cons_of_mem _ hl')) hnext')
        fun later hlater => .pure ?_
      rw [List.getLastD_cons, ← Arena.grow_grow]
      exact hlater

/-- A declared stage allocates six tensors for each of its blocks. -/
theorem StageLayers.Declared.allocates {layers : StageLayers}
    {repeats number : Nat} {first : BlockLayers} {later : List BlockLayers}
    (h : layers.Declared repeats width inputs first later)
    (hinputs : 0 < inputs) (hpos : 0 < width) (heven : width % 2 = 0)
    (himage : image.Paddable) (hin : a.shape? input = some image)
    (hchannels : image.channels = inputs) :
    Allocates (Stage.setup number input layers handle) a
      (image.stageTensors repeats width)
      (fun stage => (a.grow (image.stageTensors repeats width)).shape?
        stage.output
        = some (image.halved width)) := by
  obtain ⟨blocks⟩ := layers
  obtain ⟨hblocks, hrepeats, hfirst, hlater⟩ := h
  cases hblocks
  have hdownsample : first.isDownsample = true := by
    rw [BlockLayers.isDownsample, hfirst.stride_eq]
    rfl
  have hsetup : Stage.setup number input ⟨first :: later⟩ handle
    = Binding.balanced (do
      let head ← Block.setup s!"s{number}r0" input first handle
      let tail ← Stage.setupBlocks s!"s{number}" handle 1 head.output later
      pure ⟨s!"s{number}", head, tail⟩) := by
    have hstray : Stage.strayDownsample? 1 later = none :=
      Stage.strayDownsample?_eq_none_iff.2 fun l hl => by
        rw [BlockLayers.isDownsample, (hlater l hl).stride_eq]
        rfl
    simp only [Stage.setup, hdownsample, hstray]
    rfl
  rw [hsetup]
  have hcount : repeats - 1 = later.length := by omega
  rw [Shape.stageTensors, hcount]
  refine .balanced
    (.bind (image.downsampleTensors width) (hfirst.allocates hinputs hpos heven
    himage hin hchannels) fun _ head hhead => ?_)
  have hhead' : (a.grow (image.downsampleTensors width)).shape? head.output
      = some (image.halved width) := by
    rw [hhead]
    exact Arena.shape?_grow_added (i := 5)
  refine .bind_last _
    (Stage.setupBlocks_allocates hlater hpos heven (himage.halved width) rfl
    hhead') fun tail htail => .pure ?_
  rw [← Arena.grow_grow]
  exact htail

end FireNet
