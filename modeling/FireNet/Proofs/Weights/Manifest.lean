/-
The manifest of an architecture, as a table. Every layer that is declared
has a line: where it stands, and how many values its two halves hold
(`Architecture.lines`). The widths go from stage to stage, only the first
block of a stage has a side branch, and that block alone sees the width of
the stage before.

The table is compared to the declared layers line by line (`Line.Of`), on
each level of the parameters. What a line says of its layer is more than
its counts: the operator of the layer takes other values in its place if,
and only if, they are as many. So the manifest is what set-up demands.

The order is that of the addresses, number before number, and the weights
of a layer before its bias.
-/
import FireNet.Proofs.Operator.Wiring
import FireNet.Proofs.Weights.Buffers
import Mathlib.Algebra.Order.Floor.Div
import Mathlib.Algebra.Order.Ring.Nat
import Mathlib.Data.List.Forall2
import Mathlib.Data.List.Nodup

set_option autoImplicit false

namespace FireNet

-- ================================================================ lines

/-- A layer in the table: its address, and the lengths of its halves. -/
structure Line where
  address : LayerAddress
  weights : Nat
  bias : Nat

namespace Line

/-- The two entries of a line. -/
def blobs (line : Line) : List (BlobKey × Nat) :=
  [(.weight line.address, line.weights), (.bias line.address, line.bias)]

/-- The side branch of the first block of a stage. -/
def side (stage inputs half : Nat) : List Line :=
  [⟨.block stage 0 .one 0, 9 * inputs, inputs⟩,
    ⟨.block stage 0 .one 1, half * inputs, half⟩]

/-- A main branch that sees `inputs` channels. -/
def main (stage repetition inputs half : Nat) : List Line :=
  [⟨.block stage repetition .two 0, half * inputs, half⟩,
    ⟨.block stage repetition .two 1, 9 * half, half⟩,
    ⟨.block stage repetition .two 2, half * half, half⟩]

/-- Blocks that keep the size, `count` of them from `repetition` on. -/
def later (stage half : Nat) : (repetition count : Nat) → List Line
  | _, 0 => []
  | repetition, count + 1 =>
    main stage repetition half half ++ later stage half (repetition + 1) count

/-- Stages from `stage` on, each with its repeats and its width, after one
of `inputs` channels. -/
def stages : (stage inputs : Nat) → List (Nat × Nat) → List Line
  | _, _, [] => []
  | stage, inputs, (repeats, width) :: rest =>
    side stage inputs (width / 2) ++ main stage 0 inputs (width / 2)
      ++ later stage (width / 2) 1 (repeats - 1)
        ++ stages (stage + 1) width rest

end Line

/-- The table of an architecture. -/
def Architecture.lines (a : Architecture) : List Line :=
  let stem := a.widths.headD 0
  let head := a.widths.getLastD 0
  let before := a.widths.dropLast.getLastD 0
  [⟨.stem, 27 * stem, stem⟩, ⟨.head, head * before, head⟩,
    ⟨.classifier, head, 1⟩]
    ++ Line.stages 2 stem (a.repeats.zip a.stageWidths)

-- =============================================================== layers

/-- The line tells of the layer. -/
structure Line.Of (line : Line) (entry : LayerAddress × Layer) : Prop where
  address_eq : entry.1 = line.address
  weights_eq : entry.2.weights.size = line.weights
  bias_eq : entry.2.bias.map Array.size = some line.bias
  /-- The operator of the layer can be set up, if only over one pixel. -/
  passes : ∀ op : String,
    (entry.1.action entry.2).check op ⟨1, 1, entry.2.inputs⟩
    ⟨1, 1, entry.2.outputs⟩ = .ok ()
  /-- It takes other values in place of those of the layer if they are as
  many. -/
  takes : ∀ (op : String) (inShape outShape : Shape) (weights : Array Single)
    (bias : Option (Array Single)),
    (entry.1.action { entry.2 with weights := weights, bias := bias }).check op
      inShape outShape
        = .ok ()
      ↔ (entry.1.action entry.2).check op inShape outShape = .ok ()
        ∧ weights.size = line.weights ∧ ∀ values,
          bias = some values → values.size = line.bias

section

variable {l : Layer} {inputs outputs : Nat} {activation : Activation}
  {address : LayerAddress}

/-- A declared layer has a bias for every output. -/
theorem Layer.size_bias {weights : Nat} {w : Window}
    (h : declare? inputs outputs weights w activation = some l.blank) :
    l.bias.map Array.size = some outputs := by
  have hcovers := (declare?_eq_some_blank h).2.2.2.2
  simp only [declare?, FireNet.zeros?, Option.bind_eq_bind,
    Option.bind_eq_some_iff,
    Option.ite_none_right_eq_some, Option.some.injEq] at h
  obtain ⟨_, -, _, -, h⟩ := h
  have hbias := congrArg Layer.bias h
  cases hvalues : l.bias with
  | none =>
      rw [blank, hvalues] at hbias
      cases hbias
  | some values => exact congrArg some (hcovers values hvalues)

/-- A check asks for geometry, for as many weights as that takes, and for a
bias of an element for each output, if for any. -/
theorem Line.of_check {weights : Nat} (geometry : Shape → Shape → Prop)
    {counted : Option Nat}
    (hcheck : ∀ (op : String) (inShape outShape : Shape) (values : Array
      Single) (bias : Option (Array Single)),
    (address.action { l with weights := values, bias := bias }).check op inShape
      outShape = .ok () ↔ geometry inShape outShape ∧ counted = some values.size
        ∧ ∀ values, bias = some values → values.size = l.outputs)
    (hcounted : counted = some l.weights.size)
    (hsize : l.weights.size = weights)
    (hbias : l.bias.map Array.size = some l.outputs)
    (hpixel : geometry ⟨1, 1, l.inputs⟩ ⟨1, 1, l.outputs⟩) :
    Line.Of ⟨address, weights, l.outputs⟩ (address, l) := by
  have hcovers : ∀ values, l.bias = some values → values.size = l.outputs := by
    intro values hvalues
    rw [hvalues, Option.map_some, Option.some.injEq] at hbias
    exact hbias
  have hown : ∀ op inShape outShape,
    (address.action l).check op inShape outShape = .ok ()
      ↔ geometry inShape outShape := by
    intro op inShape outShape
    refine (hcheck op inShape outShape l.weights l.bias).trans ?_
    exact ⟨And.left, fun h => ⟨h, hcounted, hcovers⟩⟩
  refine ⟨rfl, hsize, hbias, fun op => (hown op _ _).2 hpixel,
    fun op inShape outShape values bias => ?_⟩
  rw [hcheck, hown, hcounted, hsize, Option.some.injEq, eq_comm (a := weights)]

/-- What a convolution asks of the images on both sides. -/
def Layer.Meets (l : Layer) (image outShape : Shape) : Prop :=
  (0 < l.inputs ∧ image.channels = l.inputs)
    ∧ (0 < l.outputs ∧ outShape.channels = l.outputs)
    ∧ (l.window.vertical.dilation = 1 ∧ l.window.horizontal.dilation = 1)
    ∧ l.window.Places image.height image.width (outShape.height, outShape.width)

/-- A layer meets one pixel when its window leaves one of one. -/
theorem Layer.meets_pixel {kernel stride padding : Nat} (hinputs : 0 < l.inputs)
    (houtputs : 0 < l.outputs)
    (hwindow : l.window = Window.square kernel stride padding)
    (hpixel : (Window.square kernel stride padding).output? 1 1
      = some (some (1, 1))) :
    l.Meets ⟨1, 1, l.inputs⟩ ⟨1, 1, l.outputs⟩ := by
  refine ⟨⟨hinputs, rfl⟩, ⟨houtputs, rfl⟩, ?_, ?_⟩
  · rw [hwindow]
    exact ⟨rfl, rfl⟩
  · rw [hwindow]
    exact Window.output?_eq_some_some_iff.1 hpixel

/-- A declared dense convolution is the line with its counts. -/
theorem Line.of_convolution {kernel stride padding weights : Nat}
    (h : Layer.convolution? outputs inputs kernel stride padding activation
      = some l.blank)
    (haction : address.action = .convolution) (hinputs : 0 < inputs)
    (houtputs : 0 < outputs)
    (hpixel : (Window.square kernel stride padding).output? 1 1
      = some (some (1, 1)))
    (hcount : outputs * kernel * kernel * inputs = weights) :
    Line.Of ⟨address, weights, outputs⟩ (address, l) := by
  obtain ⟨rfl, rfl, hwindow, hdense, -⟩ := Layer.convolves_of_declared h
  simp only [Layer.convolution?, Option.bind_eq_bind,
    Option.bind_eq_some_iff] at h
  obtain ⟨_, -, _, -, _, -, h⟩ := h
  have hsize := (Filter.denseWeights?_eq_some_iff.1 hdense).2.2.2
  rw [← hwindow] at hdense
  refine Line.of_check l.Meets (fun op inShape outShape values bias => ?_)
    hdense
    (hsize.trans hcount) (Layer.size_bias h)
      (Layer.meets_pixel hinputs houtputs hwindow hpixel)
  rw [haction, Action.check_convolution_eq_ok_iff]
  simp only [Layer.Meets, and_assoc]
  rfl

theorem Line.of_depthwise {channels kernel stride padding weights : Nat}
    (h : Layer.depthwise? channels kernel stride padding activation
      = some l.blank)
    (haction : address.action = .depthwise) (hchannels : 0 < channels)
    (hpixel : (Window.square kernel stride padding).output? 1 1
      = some (some (1, 1)))
    (hcount : channels * kernel * kernel = weights) :
    Line.Of ⟨address, weights, channels⟩ (address, l) := by
  obtain ⟨heven, rfl, hwindow, ⟨rows, hrows, hcells⟩, -⟩ :=
    Layer.filtersChannels_of_declared h
  simp only [Layer.depthwise?, Option.bind_eq_bind,
    Option.bind_eq_some_iff] at h
  obtain ⟨_, -, _, -, h⟩ := h
  have hsize : l.weights.size = l.outputs * kernel * kernel := by
    rw [← (Size.mul_eq_some_iff.1 hcells).2, ← (Size.mul_eq_some_iff.1 hrows).2]
    rfl
  rw [← hwindow] at hrows hcells
  have hcounted : (Size.mul l.outputs l.window.vertical.kernel).bind
      (fun rows => Size.mul rows l.window.horizontal.kernel)
        = some l.weights.size := by
    rw [hrows, Option.bind_some, hcells]
  refine Line.of_check (fun image outShape => l.inputs = l.outputs
    ∧ l.Meets image outShape)
    (fun op inShape outShape values bias => ?_) hcounted (hsize.trans hcount)
      (Layer.size_bias h)
    ⟨heven, Layer.meets_pixel (heven ▸ hchannels) hchannels hwindow hpixel⟩
  rw [haction, Action.check_depthwise_eq_ok_iff, Option.bind_eq_some_iff]
  simp only [Layer.Meets, and_assoc]
  rfl

theorem Line.of_fullyConnected {weights : Nat}
    (h : Layer.fullyConnected? outputs inputs activation = some l.blank)
    (haction : address.action = .fullyConnected) (hinputs : 0 < inputs)
    (houtputs : 0 < outputs) (hcount : outputs * inputs = weights) :
    Line.Of ⟨address, weights, outputs⟩ (address, l) := by
  obtain ⟨rfl, rfl, hproduct, -⟩ := Layer.connects_of_declared h
  simp only [Layer.fullyConnected?, Option.bind_eq_bind,
    Option.bind_eq_some_iff] at h
  obtain ⟨_, -, h⟩ := h
  obtain ⟨hlt, hsize⟩ := Size.mul_eq_some_iff.1 hproduct
  have hpixel : ∀ n, n ≤ l.outputs * l.inputs →
      (Shape.mk 1 1 n).size? = some n := by
    intro n hn
    refine Shape.size?_eq_some_iff.2
      ⟨(by decide : 1 * 1 < Size.limit), ?_, Nat.one_mul n⟩
    show 1 * 1 * n < Size.limit
    omega
  refine Line.of_check (fun image outShape =>
      0 < l.inputs ∧ image.size? = some l.inputs
        ∧ outShape.size? = some l.outputs)
    (fun op inShape outShape values bias => ?_) hproduct
      (hsize.symm.trans hcount)
    (Layer.size_bias h) ⟨hinputs, hpixel _ (Nat.le_mul_of_pos_left _ houtputs),
      hpixel _ (Nat.le_mul_of_pos_right _ hinputs)⟩
  rw [haction, Action.check_fullyConnected_eq_ok_iff]
  simp only [and_assoc]
  rfl

end

-- =============================================================== levels

/-- The lines tell of the layers, one by one. -/
def Lists (lines : List Line) (layers : List (LayerAddress × Layer)) : Prop :=
  List.Forall₂ Line.Of lines layers

/-- Listings can be put one behind the other. -/
theorem Lists.append {first second : List Line}
    {early late : List (LayerAddress × Layer)} (hfirst : Lists first early)
    (hsecond : Lists second late) :
    Lists (first ++ second) (early ++ late) :=
  List.rel_append hfirst hsecond

section

variable {inputs width : Nat} (stage : Nat)

/-- A side branch is listed by its two lines. -/
theorem SideLayers.lists {s : SideLayers} (hinputs : 0 < inputs)
    (hhalf : 0 < width / 2)
    (h : declare? width inputs 2 = some (s.map Layer.blank)) :
    Lists (Line.side stage inputs (width / 2))
      [(.block stage 0 .one 0, s.depthwise),
        (.block stage 0 .one 1, s.pointwise)] := by
  simp only [declare?, Option.bind_eq_bind, Option.bind_eq_some_iff,
    Option.some.injEq] at h
  obtain ⟨depthwise, hdepthwise, pointwise, hpointwise, h⟩ := h
  cases h
  refine .cons (Line.of_depthwise hdepthwise rfl hinputs (by decide) (by omega))
    (.cons
    (Line.of_convolution hpointwise rfl hinputs hhalf (by decide) ?_) .nil)
  rw [Nat.mul_one, Nat.mul_one]

/-- A main branch is listed by its three lines, from the width that it
sees. -/
theorem MainLayers.lists {m : MainLayers} {stride : Nat} (repetition seen : Nat)
    (hseen : (if 1 < stride then inputs else width / 2) = seen)
    (hpos : 0 < seen) (hhalf : 0 < width / 2)
    (hpixel : (Window.square 3 stride 1).output? 1 1 = some (some (1, 1)))
    (h : declare? width inputs stride = some (m.map Layer.blank)) :
    Lists (Line.main stage repetition seen (width / 2))
      [(.block stage repetition .two 0, m.reduce),
        (.block stage repetition .two 1, m.depthwise),
        (.block stage repetition .two 2, m.expand)] := by
  simp only [declare?, hseen, Option.bind_eq_bind, Option.bind_eq_some_iff,
    Option.some.injEq] at h
  obtain ⟨reduce, hreduce, depthwise, hdepthwise, expand, hexpand, h⟩ := h
  cases h
  refine .cons (Line.of_convolution hreduce rfl hpos hhalf (by decide) ?_)
    (.cons (Line.of_depthwise hdepthwise rfl hhalf hpixel (by omega)) (.cons
      (Line.of_convolution hexpand rfl hhalf hhalf (by decide) ?_) .nil))
  · rw [Nat.mul_one, Nat.mul_one]
  · rw [Nat.mul_one, Nat.mul_one]

/-- A first block is listed by both branches. -/
theorem BlockLayers.lists_first {b : BlockLayers} (hinputs : 0 < inputs)
    (hhalf : 0 < width / 2)
    (h : declare? width inputs 2 = some (b.map Layer.blank)) :
    Lists (Line.side stage inputs (width / 2)
      ++ Line.main stage 0 inputs (width / 2))
      (b.addressed stage 0) := by
  rw [declare?, if_pos (by decide)] at h
  simp only [Option.bind_eq_bind, Option.bind_eq_some_iff,
    Option.map_eq_some_iff, Option.some.injEq] at h
  obtain ⟨side, hside, main, hmain, h⟩ := h
  rw [map, BlockLayers.mk.injEq] at h
  obtain ⟨-, -, -, hsideEq, rfl⟩ := h
  obtain ⟨declared, hdeclared, rfl⟩ := hside
  obtain ⟨s, hs, rfl⟩ := Option.map_eq_some_iff.1 hsideEq.symm
  rw [addressed, hs]
  exact (SideLayers.lists stage hinputs hhalf hdeclared).append
    (MainLayers.lists stage 0 inputs (if_pos (by decide)) hinputs hhalf
      (by decide) hmain)

/-- A later block is listed by its main branch alone. -/
theorem BlockLayers.lists_later {b : BlockLayers} (repetition : Nat)
    (hhalf : 0 < width / 2)
    (h : declare? width width 1 = some (b.map Layer.blank)) :
    Lists (Line.main stage repetition (width / 2) (width / 2))
      (b.addressed stage repetition) := by
  rw [declare?, if_neg (by decide)] at h
  simp only [Option.bind_eq_bind, Option.bind_some, Option.bind_eq_some_iff,
    Option.some.injEq] at h
  obtain ⟨main, hmain, h⟩ := h
  rw [map, BlockLayers.mk.injEq] at h
  obtain ⟨-, -, -, hsideEq, rfl⟩ := h
  rw [addressed, Option.map_eq_none_iff.1 hsideEq.symm]
  exact MainLayers.lists stage repetition (width / 2) (if_neg (by decide)) hhalf
    hhalf (by decide) hmain

/-- Later blocks in a row are listed one behind the other. -/
theorem BlockLayers.lists_row {n : Nat} {blocks : List BlockLayers}
    (repetition : Nat) (hhalf : 0 < width / 2)
    (h : ((List.replicate n ()).mapM fun _ => declare? width width 1)
      = some (blocks.map (BlockLayers.map Layer.blank))) :
    Lists (Line.later stage (width / 2) repetition n)
      (addressedFrom stage repetition blocks) := by
  induction n generalizing repetition blocks with
  | zero =>
      simp only [List.replicate_zero, List.mapM_nil, Option.pure_def,
        Option.some.injEq] at h
      rw [List.map_eq_nil_iff.1 h.symm]
      exact .nil
  | succ n ih =>
      simp only [List.replicate_succ, List.mapM_cons, Option.bind_eq_bind,
        Option.pure_def, Option.bind_eq_some_iff, Option.some.injEq] at h
      obtain ⟨first, hfirst, rest, hrest, h⟩ := h
      obtain ⟨b, later, rfl, rfl, rfl⟩ := List.map_eq_cons_iff.1 h.symm
      exact (lists_later stage repetition hhalf hfirst).append
        (ih (repetition + 1) hrest)

/-- A stage is listed by its first block and the later ones. -/
theorem StageLayers.lists {s : StageLayers} {repeats : Nat}
    (hrepeats : 0 < repeats) (hinputs : 0 < inputs) (hhalf : 0 < width / 2)
    (h : declare? repeats width inputs = some (s.map Layer.blank)) :
    Lists (Line.side stage inputs (width / 2)
      ++ Line.main stage 0 inputs (width / 2)
        ++ Line.later stage (width / 2) 1 (repeats - 1))
      (BlockLayers.addressedFrom stage 0 s.blocks) := by
  cases repeats with
  | zero => omega
  | succ n =>
      simp only [declare?, Option.ite_none_left_eq_some, Option.bind_eq_bind,
        Option.bind_eq_some_iff, Option.some.injEq] at h
      obtain ⟨-, first, hfirst, later, hlater, h⟩ := h
      rw [map, StageLayers.mk.injEq] at h
      obtain ⟨b, blocks, hblocks, rfl, rfl⟩ := List.map_eq_cons_iff.1 h.symm
      rw [hblocks]
      exact (BlockLayers.lists_first stage hinputs hhalf hfirst).append
        (BlockLayers.lists_row stage 1 hhalf hlater)

end

/-- Stages are listed one behind the other, each from the width before it. -/
theorem StageLayers.lists_stages {inputs stage : Nat} {plan : List (Nat × Nat)}
    {stages : List StageLayers} (hinputs : 0 < inputs)
    (hplan : ∀ entry ∈ plan, 0 < entry.1 ∧ 0 < entry.2 / 2)
    (h : Parameters.declareStages? inputs plan
      = some (stages.map (StageLayers.map Layer.blank))) :
    Lists (Line.stages stage inputs plan) (addressedFrom stage stages) := by
  induction plan generalizing inputs stage stages with
  | nil =>
      simp only [Parameters.declareStages?, Option.some.injEq] at h
      rw [List.map_eq_nil_iff.1 h.symm]
      exact .nil
  | cons entry rest ih =>
      obtain ⟨repeats, width⟩ := entry
      obtain ⟨hrepeats, hhalf⟩ := hplan _ List.mem_cons_self
      simp only [Parameters.declareStages?, Option.bind_eq_bind,
        Option.bind_eq_some_iff, Option.some.injEq] at h
      obtain ⟨first, hfirst, later, hlater, h⟩ := h
      obtain ⟨s, others, rfl, rfl, rfl⟩ := List.map_eq_cons_iff.1 h.symm
      exact (StageLayers.lists stage hrepeats hinputs hhalf hfirst).append
        (ih (by omega)
          (fun entry hentry => hplan entry (List.mem_cons_of_mem _ hentry))
          hlater)

/-- The table of an architecture tells of all layers declared for it. -/
theorem Parameters.lists {a : Architecture} {p : Parameters}
    (h : declare a = .ok p.blank) :
    Lists a.lines p.layers := by
  simp only [declare, Outcome.bind_eq_ok_iff, Outcome.ofOption_eq_ok_iff,
    Option.bind_eq_bind, Option.bind_eq_some_iff, Option.some.injEq] at h
  obtain ⟨_, hvalidate, stages, hstages, stem, hstem, head, hhead, classifier,
    hclassifier, h⟩ := h
  obtain ⟨first, last, middle, hvalid⟩ :=
    Architecture.valid_of_validate hvalidate
  rw [blank, map, Parameters.mk.injEq] at h
  obtain ⟨-, rfl, rfl, rfl, rfl⟩ := h
  have hbefore : 0 < a.widths.dropLast.getLastD 0 := by
    rw [hvalid.widths_eq, List.dropLast_concat]
    exact hvalid.lastWidth_pos
  have hfirst : 0 < a.widths.headD 0 := hvalid.headD_widths ▸ hvalid.stem_pos
  have hlast : 0 < a.widths.getLastD 0 :=
    hvalid.getLastD_widths ▸ hvalid.head_pos
  have hplan : ∀ entry ∈ a.repeats.zip a.stageWidths,
      0 < entry.1 ∧ 0 < entry.2 / 2 := by
    intro entry hentry
    rw [hvalid.stageWidths_eq] at hentry
    obtain ⟨hpos, heven⟩ := hvalid.plan_even entry hentry
    exact ⟨hvalid.repeats_pos _ (List.of_mem_zip hentry).1, by omega⟩
  refine .cons (Line.of_convolution hstem rfl (by decide) hfirst (by decide) ?_)
    (.cons (Line.of_convolution hhead rfl hbefore hlast (by decide) ?_) (.cons
      (Line.of_fullyConnected hclassifier rfl hlast (by decide) (Nat.one_mul _))
      (StageLayers.lists_stages hfirst hplan hstages)))
  · show a.widths.headD 0 * 3 * 3 * 3 = 27 * a.widths.headD 0
    omega
  · rw [Nat.mul_one, Nat.mul_one]

-- =============================================================== counts

/-- A line says which blobs its layer has, and how long they are. -/
theorem Line.Of.blobs_eq {line : Line} {entry : LayerAddress × Layer}
    (h : line.Of entry) :
    (Parameters.blobs entry.1 entry.2).map
      (fun (key, values) => (key, values.size))
      = line.blobs := by
  have hbias := h.bias_eq
  unfold Parameters.blobs
  cases hvalues : entry.2.bias with
  | none =>
      rw [hvalues] at hbias
      cases hbias
  | some values =>
      rw [hvalues, Option.map_some, Option.some.injEq] at hbias
      show [(_, entry.2.weights.size), (_, values.size)] = _
      rw [h.weights_eq, hbias, h.address_eq]
      rfl

/-- So lines say it for their layers. -/
theorem Lists.blobs_eq {lines : List Line}
    {layers : List (LayerAddress × Layer)} (h : Lists lines layers) :
    (layers.flatMap fun (address, layer) => Parameters.blobs address layer).map
        (fun (key, values) => (key, values.size))
      = lines.flatMap Line.blobs := by
  induction h with
  | nil => rfl
  | cons hline _ ih =>
      rw [List.flatMap_cons, List.flatMap_cons, List.map_append,
        hline.blobs_eq, ih]

/-- Every listed layer has its line. -/
theorem Lists.exists_line {lines : List Line}
    {layers : List (LayerAddress × Layer)} {entry : LayerAddress × Layer}
    (h : Lists lines layers) (hentry : entry ∈ layers) :
    ∃ line ∈ lines, line.Of entry := by
  induction h with
  | nil => cases hentry
  | cons hline _ ih =>
      rcases List.mem_cons.1 hentry with rfl | hentry
      · exact ⟨_, List.mem_cons_self, hline⟩
      · obtain ⟨line, hmem, hof⟩ := ih hentry
        exact ⟨line, List.mem_cons_of_mem _ hmem, hof⟩

/-- Three lines for each later block. -/
theorem Line.length_later {stage half : Nat} (repetition count : Nat) :
    (later stage half repetition count).length = 3 * count := by
  induction count generalizing repetition with
  | zero => rfl
  | succ count ih =>
      rw [later, List.length_append, ih]
      show 3 + 3 * count = _
      omega

/-- Five lines for a first block and three for each later one. -/
theorem Line.length_stages {plan : List (Nat × Nat)} (stage inputs : Nat)
    (hpos : ∀ entry ∈ plan, 0 < entry.1) :
    (stages stage inputs plan).length
      = 2 * plan.length + 3 * (plan.map Prod.fst).sum := by
  induction plan generalizing stage inputs with
  | nil => rfl
  | cons entry rest ih =>
      obtain ⟨repeats, width⟩ := entry
      have hrepeats : 0 < repeats := hpos _ List.mem_cons_self
      rw [stages, List.length_append, List.length_append, Line.length_later,
        ih _ _ fun entry hentry => hpos entry (List.mem_cons_of_mem _ hentry),
        List.map_cons, List.sum_cons, List.length_cons]
      show 2 + 3 + 3 * (repeats - 1) + _
        = 2 * (rest.length + 1) + 3 * (repeats + _)
      omega

/-- Two blobs for each line. -/
theorem Line.length_blobs (lines : List Line) :
    (lines.flatMap blobs).length = 2 * lines.length := by
  induction lines with
  | nil => rfl
  | cons line lines ih =>
      rw [List.flatMap_cons, List.length_append, ih, List.length_cons]
      show 2 + _ = _
      omega

/-- As many layers as the stages and their blocks ask for. -/
theorem Architecture.length_lines {a : Architecture} (h : a.validate = .ok ()) :
    a.lines.length = 3 + 2 * a.repeats.length + 3 * a.repeats.sum := by
  obtain ⟨first, last, middle, hvalid⟩ := Architecture.valid_of_validate h
  have hfits : a.repeats.length ≤ middle.length :=
    Nat.le_of_eq hvalid.length_eq.symm
  have hrepeats : (a.repeats.zip middle).map Prod.fst = a.repeats :=
    List.map_fst_zip hfits
  have hlength : (a.repeats.zip middle).length = a.repeats.length := by
    rw [List.length_zip, Nat.min_eq_left hfits]
  rw [lines, List.length_append, hvalid.stageWidths_eq, Line.length_stages,
    hrepeats, hlength]
  · show 3 + _ = _
    omega
  · exact fun entry hentry => hvalid.repeats_pos _ (List.of_mem_zip hentry).1

/-- The elements of a layer are those of its halves. -/
theorem Parameters.elements_eq_sum (p : Parameters) :
    p.elements = (p.manifest.map Prod.snd).sum := by
  have hlayer : ∀ entry : LayerAddress × Layer,
      entry.2.elements
        = ((blobs entry.1 entry.2).map fun blob => blob.2.size).sum := by
    intro entry
    unfold Layer.elements blobs
    cases entry.2.bias with
    | none => rfl
    | some bias => rfl
  have hlayers : ∀ layers : List (LayerAddress × Layer),
      (layers.map fun entry => entry.2.elements).sum
        = ((layers.flatMap fun entry => blobs entry.1 entry.2).map fun blob =>
          blob.2.size).sum := by
    intro layers
    induction layers with
    | nil => rfl
    | cons entry rest ih =>
        rw [List.map_cons, List.sum_cons, List.flatMap_cons, List.map_append,
          List.sum_append, ih, hlayer]
  rw [elements, ← List.sum_eq_foldl_nat, manifest, List.map_map]
  exact hlayers p.layers

-- ================================================================ order

/-- Addresses in blocks, number before number: by stage, then by repetition,
by branch and by index. -/
def LayerAddress.Before : LayerAddress → LayerAddress → Prop
  | .block stage repetition branch index,
      .block stage' repetition' branch' index' =>
    stage < stage' ∨ stage = stage'
      ∧ (repetition < repetition' ∨ repetition = repetition' ∧
      (branch.digit < branch'.digit ∨ branch = branch' ∧ index < index'))
  | _, _ => False

/-- Keys in the order of their layers, the weights before the bias. -/
def BlobKey.Before (key other : BlobKey) : Prop :=
  key.layer.Before other.layer
    ∨ key.layer = other.layer ∧ key.kind = .weight ∧ other.kind = .bias

/-- Inside a block the branch and the index decide. -/
theorem LayerAddress.before_block_iff {stage repetition index index' : Nat}
    {branch branch' : BranchNumber} :
    (block stage repetition branch index).Before
      (block stage repetition branch' index')
      ↔ branch.digit < branch'.digit ∨ branch = branch' ∧ index < index' := by
  simp only [Before, Nat.lt_irrefl, false_or, true_and]

/-- Addresses of one block come in order. -/
theorem BlockLayers.before_addresses {stage repetition : Nat}
    {b : BlockLayers} :
    (addresses (b.addressed stage repetition)).Pairwise
      LayerAddress.Before := by
  unfold BlockLayers.addressed addresses
  cases b.side with
  | none => simp [LayerAddress.before_block_iff]
  | some s => simp [LayerAddress.before_block_iff, BranchNumber.digit]

theorem BlockLayers.before_addressesFrom {stage repetition : Nat}
    {blocks : List BlockLayers} :
    (addresses (addressedFrom stage repetition blocks)).Pairwise
      LayerAddress.Before := by
  induction blocks generalizing repetition with
  | nil => exact .nil
  | cons b rest ih =>
      rw [addressedFrom, addresses_append, List.pairwise_append]
      refine ⟨before_addresses, ih, fun early hearly late hlate => ?_⟩
      obtain ⟨branch, index, rfl⟩ := mem_addresses hearly
      obtain ⟨r, branch', index', hr, rfl⟩ := mem_addressesFrom hlate
      exact .inr ⟨rfl, .inl hr⟩

theorem StageLayers.before_addressesFrom {stage : Nat}
    {stages : List StageLayers} :
    (addresses (addressedFrom stage stages)).Pairwise LayerAddress.Before := by
  induction stages generalizing stage with
  | nil => exact .nil
  | cons s rest ih =>
      rw [addressedFrom, addresses_append, List.pairwise_append]
      refine ⟨BlockLayers.before_addressesFrom, ih,
        fun early hearly late hlate => ?_⟩
      obtain ⟨r, branch, index, -, rfl⟩ := BlockLayers.mem_addressesFrom hearly
      obtain ⟨t, r', branch', index', ht, rfl⟩ := mem_addressesFrom hlate
      exact .inl ht

/-- The keys of layers in order are in order. -/
theorem before_keys {layers : List (LayerAddress × Layer)}
    (h : (addresses layers).Pairwise LayerAddress.Before) :
    ((layers.flatMap fun (address, layer) => Parameters.blobs address layer).map
      Prod.fst).Pairwise BlobKey.Before := by
  rw [addresses, List.pairwise_map] at h
  rw [List.map_flatMap, List.pairwise_flatMap]
  refine ⟨fun entry _ => ?_, h.imp ?_⟩
  · obtain ⟨address, layer⟩ := entry
    show ((Parameters.blobs address layer).map Prod.fst).Pairwise BlobKey.Before
    unfold Parameters.blobs
    cases layer.bias with
    | none => exact List.pairwise_singleton _ _
    | some bias => exact List.pairwise_pair.2 (.inr ⟨rfl, rfl, rfl⟩)
  · intro early late hbefore key hkey other hother
    rw [← Parameters.nodup_keys_blobs.2 key
      hkey, ← Parameters.nodup_keys_blobs.2 other hother] at hbefore
    exact .inl hbefore

-- ============================================================= manifests

/-- A valid architecture can be declared where its buffers can exist. The
manifest of parameters declared for it, whatever values they hold since, is
its table: names that differ, six of them for the fixed layers and the
others in the order of their numbers, and as many elements in all as the
entries say. The operator of each layer can be set up, and it takes other
values in place of those of the layer when they are as many as the manifest
says, and then only; a bias can be left out. -/
theorem Parameters.manifest_follows_architecture {a : Architecture}
    (hvalid : a.validate = .ok ()) :
    ((∀ n ∈ a.buffers, n ≤ Size.maxBytes) → ∃ p, declare a = .ok p)
    ∧ ∀ p : Parameters, declare a = .ok p.blank →
      p.manifest = a.lines.flatMap Line.blobs
      ∧ (p.manifest.map fun entry => entry.1.name).Nodup
      ∧ p.manifest.length = 6 + 4 * a.repeats.length + 6 * a.repeats.sum
      ∧ (p.manifest.map fun entry => entry.1.name).take 6
        = ["c1w", "c1b", "c5w", "c5b", "fcw", "fcb"]
      ∧ ((p.manifest.drop 6).map Prod.fst).Pairwise BlobKey.Before
      ∧ p.elements = (p.manifest.map Prod.snd).sum
      ∧ ∀ address layer, (address, layer) ∈ p.layers →
        (∀ op : String, (address.action layer).check op ⟨1, 1, layer.inputs⟩
          ⟨1, 1, layer.outputs⟩ = .ok ())
        ∧ ∀ (op : String) (inShape outShape : Shape) (weights : Array Single)
          (bias : Option (Array Single)),
          (address.action { layer with weights := weights, bias := bias }).check
            op inShape outShape
              = .ok ()
            ↔ (address.action layer).check op inShape outShape = .ok ()
              ∧ (BlobKey.weight address, weights.size) ∈ p.manifest
              ∧ ∀ values, bias = some values →
                (BlobKey.bias address, values.size) ∈ p.manifest := by
  refine ⟨exists_declare hvalid, fun p h => ?_⟩
  have hlists := lists h
  have hmanifest : p.manifest = a.lines.flatMap Line.blobs := hlists.blobs_eq
  have hkeys : (p.manifest.map Prod.fst).Nodup := by
    rw [manifest, List.map_map]
    exact p.nodup_keys
  refine ⟨hmanifest, ?_, ?_, ?_, ?_, p.elements_eq_sum,
    fun address layer hentry => ?_⟩
  · rw [List.Nodup, List.pairwise_map] at hkeys ⊢
    exact hkeys.imp fun hne hname => hne (BlobKey.name_injective hname)
  · rw [hmanifest, Line.length_blobs, Architecture.length_lines hvalid]
    omega
  · rw [hmanifest]
    rfl
  · -- past the fixed layers the table is that of the stages
    have hstages :
      Lists (Line.stages 2 (a.widths.headD 0) (a.repeats.zip a.stageWidths))
        (StageLayers.addressedFrom 2 p.stages) := by
      cases hlists with
      | cons _ h =>
          cases h with
          | cons _ h =>
              cases h with
              | cons _ h => exact h
    have hkeysEq : (p.manifest.drop 6).map Prod.fst
        = ((StageLayers.addressedFrom 2 p.stages).flatMap
          fun (address, layer) =>
            blobs address layer).map Prod.fst := by
      rw [hmanifest]
      show ((Line.stages _ _ _).flatMap Line.blobs).map Prod.fst = _
      rw [← hstages.blobs_eq, List.map_map]
      rfl
    rw [hkeysEq]
    exact before_keys StageLayers.before_addressesFrom
  · obtain ⟨line, hline, hof⟩ := hlists.exists_line hentry
    refine ⟨hof.passes, fun op inShape outShape weights bias => ?_⟩
    have hblobs : ∀ blob ∈ line.blobs, blob ∈ p.manifest := by
      intro blob hblob
      rw [hmanifest]
      exact List.mem_flatMap.2 ⟨line, hline, hblob⟩
    -- no key is listed twice, so the manifest has one count for it
    have hcount : ∀ {key : BlobKey} {count n : Nat}, (key, count) ∈ line.blobs →
        ((key, n) ∈ p.manifest ↔ n = count) := by
      intro key count n hblob
      constructor
      · intro hmem
        exact congrArg Prod.snd
          (List.inj_on_of_nodup_map hkeys hmem (hblobs _ hblob) rfl)
      · intro hn
        rw [hn]
        exact hblobs _ hblob
    obtain rfl : address = line.address := hof.address_eq
    rw [hof.takes, hcount List.mem_cons_self]
    simp only [hcount (List.mem_cons_of_mem _ List.mem_cons_self)]

/-- Two stages, of two blocks and of one: 6 + 4 * 2 + 6 * 3 blobs. -/
theorem Parameters.manifest_follows_architecture_small :
    (⟨[2, 1], [4, 6, 2, 5]⟩ : Architecture).validate = .ok ()
      ∧ ∃ p, declare ⟨[2, 1], [4, 6, 2, 5]⟩ = .ok p
        ∧ p.manifest.length = 32 := by
  have hvalid : (⟨[2, 1], [4, 6, 2, 5]⟩ : Architecture).validate = .ok () := rfl
  obtain ⟨hdeclares, hlists⟩ := manifest_follows_architecture hvalid
  obtain ⟨p, hp⟩ := hdeclares (by decide)
  refine ⟨hvalid, p, hp, (hlists p ?_).2.2.1⟩
  rw [blank_of_declare hp, hp]

end FireNet