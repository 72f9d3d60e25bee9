/-
What a declaration promises. Blank parameters that a declaration gives
have the geometry of their architecture: every layer has its channels, its
window and as many values as that takes, a block that halves the image has
a side branch and the others have none, and each stage takes the width
that the one before it gives.

The promises are stated of parameters with values: blanking forgets only
what they do not mention.

They are carried from the layers up. A block is described by its stride, a
stage by its first block and the later ones, and the stages as a chain
(`StagesDeclared`), whose recursion is that of the declaration. Later files
take these descriptions apart and never open the declaration again.

The last part is about zeros. Declaring gives blanks, so blanking what was
declared gives it back, and blanking parameters that were filled gives the
declaration that they were filled from.
-/
import FireNet.Proofs.Kernel.Filter
import FireNet.Proofs.Outcome
import FireNet.Proofs.Weights.Random

set_option autoImplicit false

namespace FireNet

-- =============================================================== layers

namespace Layer

/-- A dense convolution with as many values as its channels and window
take. -/
structure Convolves (l : Layer) (outputs inputs : Nat) (w : Window) : Prop where
  inputs_eq : l.inputs = inputs
  outputs_eq : l.outputs = outputs
  window_eq : l.window = w
  weights_eq : Filter.denseWeights? w inputs outputs = some l.weights.size
  bias_covers : l.filter.BiasCovers outputs

/-- A convolution of each channel by itself. -/
structure FiltersChannels (l : Layer) (channels : Nat) (w : Window) : Prop where
  inputs_eq : l.inputs = channels
  outputs_eq : l.outputs = channels
  window_eq : l.window = w
  weights_eq : ∃ a, Size.mul channels w.vertical.kernel = some a
    ∧ Size.mul a w.horizontal.kernel = some l.weights.size
  bias_covers : l.filter.BiasCovers channels

/-- A fully connected layer. -/
structure Connects (l : Layer) (outputs inputs : Nat) : Prop where
  inputs_eq : l.inputs = inputs
  outputs_eq : l.outputs = outputs
  weights_eq : Size.mul outputs inputs = some l.weights.size
  bias_covers : l.filter.BiasCovers outputs

variable {l : Layer} {inputs outputs : Nat} {activation : Activation}

/-- Values filled into a declared layer leave all else. -/
theorem declare?_eq_some_blank {weights : Nat} {w : Window}
    (h : declare? inputs outputs weights w activation = some l.blank) :
    l.inputs = inputs ∧ l.outputs = outputs ∧ l.window = w
      ∧ l.weights.size = weights
      ∧ l.filter.BiasCovers outputs := by
  simp only [declare?, FireNet.zeros?, Option.bind_eq_bind,
    Option.bind_eq_some_iff,
    Option.ite_none_right_eq_some, Option.some.injEq] at h
  obtain ⟨_, ⟨-, rfl⟩, _, ⟨-, rfl⟩, h⟩ := h
  rw [blank, Layer.mk.injEq] at h
  obtain ⟨hinputs, houtputs, hwindow, -, hweights, hbias⟩ := h
  refine ⟨hinputs.symm, houtputs.symm, hwindow.symm, ?_, ?_⟩
  · have := congrArg Array.size hweights
    rw [Array.size_replicate, Array.size_replicate] at this
    exact this.symm
  · intro values hvalues
    have hvalues' : l.bias = some values := hvalues
    rw [hvalues', Option.map_some, Option.some.injEq] at hbias
    have := congrArg Array.size hbias
    rw [Array.size_replicate, Array.size_replicate] at this
    exact this.symm

/-- A declared dense convolution is one that the set-up accepts. -/
theorem convolves_of_declared {kernel stride padding : Nat}
    (h : convolution? outputs inputs kernel stride padding activation
      = some l.blank) :
    l.Convolves outputs inputs (Window.square kernel stride padding) := by
  simp only [convolution?, Option.bind_eq_bind, Option.bind_eq_some_iff] at h
  obtain ⟨a, ha, b, hb, weights, hweights, h⟩ := h
  obtain ⟨hinputs, houtputs, hwindow, hsize, hbias⟩ := declare?_eq_some_blank h
  refine ⟨hinputs, houtputs, hwindow, ?_, hbias⟩
  show (do
    let a ← Size.mul outputs kernel
    let b ← Size.mul a kernel
    Size.mul b inputs) = _
  rw [ha, Option.bind_eq_bind, Option.bind_some, hb, Option.bind_some,
    hweights, hsize]

/-- So is a declared convolution by channel, with as many outputs as
channels. -/
theorem filtersChannels_of_declared {channels kernel stride padding : Nat}
    (h : depthwise? channels kernel stride padding activation = some l.blank) :
    l.FiltersChannels channels (Window.square kernel stride padding) := by
  simp only [depthwise?, Option.bind_eq_bind, Option.bind_eq_some_iff] at h
  obtain ⟨a, ha, weights, hweights, h⟩ := h
  obtain ⟨hinputs, houtputs, hwindow, hsize, hbias⟩ := declare?_eq_some_blank h
  exact ⟨hinputs, houtputs, hwindow, ⟨a, ha, hsize ▸ hweights⟩, hbias⟩

theorem connects_of_declared
    (h : fullyConnected? outputs inputs activation = some l.blank) :
    l.Connects outputs inputs := by
  simp only [fullyConnected?, Option.bind_eq_bind, Option.bind_eq_some_iff] at h
  obtain ⟨weights, hweights, h⟩ := h
  obtain ⟨hinputs, houtputs, -, hsize, hbias⟩ := declare?_eq_some_blank h
  exact ⟨hinputs, houtputs, hsize ▸ hweights, hbias⟩

end Layer

-- =============================================================== blocks

/-- The side branch of a block that halves the image. -/
structure SideLayers.Downsamples (s : SideLayers) (outputs inputs : Nat) :
    Prop where
  depthwise : s.depthwise.FiltersChannels inputs (Window.square 3 2 1)
  pointwise : s.pointwise.Convolves (outputs / 2) inputs (Window.square 1 1 0)

/-- A main branch that gives `half` channels. -/
structure MainLayers.Follows (m : MainLayers) (half inputs stride : Nat) :
    Prop where
  reduce : m.reduce.Convolves half inputs (Window.square 1 1 0)
  depthwise : m.depthwise.FiltersChannels half (Window.square 3 stride 1)
  expand : m.expand.Convolves half half (Window.square 1 1 0)

/-- The side branch of a block that steps over the image by `stride`. -/
structure SideLayers.Strides (s : SideLayers) (outputs inputs stride : Nat) :
    Prop where
  depthwise : s.depthwise.FiltersChannels inputs (Window.square 3 stride 1)
  pointwise : s.pointwise.Convolves (outputs / 2) inputs (Window.square 1 1 0)

/-- A block both of whose branches step over the image by `stride`. -/
structure BlockLayers.Strides (b : BlockLayers) (outputs inputs stride : Nat) :
    Prop where
  outputs_eq : b.outputs = outputs
  inputs_eq : b.inputs = inputs
  stride_eq : b.stride = stride
  side : ∃ s, b.side = some s ∧ s.Strides outputs inputs stride
  main : b.main.Follows (outputs / 2) inputs stride

/-- A block that halves the image. -/
structure BlockLayers.Downsamples (b : BlockLayers) (outputs inputs : Nat) :
    Prop where
  outputs_eq : b.outputs = outputs
  inputs_eq : b.inputs = inputs
  stride_eq : b.stride = 2
  side : ∃ s, b.side = some s ∧ s.Downsamples outputs inputs
  main : b.main.Follows (outputs / 2) inputs 2

/-- A block that keeps the size. -/
structure BlockLayers.Keeps (b : BlockLayers) (width : Nat) : Prop where
  outputs_eq : b.outputs = width
  inputs_eq : b.inputs = width
  stride_eq : b.stride = 1
  side_eq : b.side = none
  main : b.main.Follows (width / 2) (width / 2) 1

/-- A declared side branch strides once, in its first convolution. -/
theorem SideLayers.strides_of_declared {s : SideLayers}
    {outputs inputs stride : Nat}
    (h : declare? outputs inputs stride = some (s.map Layer.blank)) :
    s.Strides outputs inputs stride := by
  simp only [declare?, Option.bind_eq_bind, Option.bind_eq_some_iff,
    Option.some.injEq] at h
  obtain ⟨depthwise, hdepthwise, pointwise, hpointwise, h⟩ := h
  cases h
  exact ⟨Layer.filtersChannels_of_declared hdepthwise,
    Layer.convolves_of_declared hpointwise⟩

/-- A declared main branch goes on from all channels in a downsample block,
and from half of them otherwise. -/
theorem MainLayers.follows_of_declared {m : MainLayers}
    {outputs inputs stride : Nat}
    (h : declare? outputs inputs stride = some (m.map Layer.blank)) :
    m.Follows (outputs / 2) (if 1 < stride then inputs else outputs / 2)
      stride := by
  simp only [declare?, Option.bind_eq_bind, Option.bind_eq_some_iff,
    Option.some.injEq] at h
  obtain ⟨reduce, hreduce, depthwise, hdepthwise, expand, hexpand, h⟩ := h
  cases h
  exact ⟨Layer.convolves_of_declared hreduce,
    Layer.filtersChannels_of_declared hdepthwise,
    Layer.convolves_of_declared hexpand⟩

namespace BlockLayers

variable {b : BlockLayers} {outputs inputs width : Nat}

/-- A declared block with a stride above one has a side branch. -/
theorem strides_of_declared {stride : Nat} (hstride : 1 < stride)
    (h : declare? outputs inputs stride = some (b.map Layer.blank)) :
    b.Strides outputs inputs stride := by
  rw [declare?, if_pos hstride] at h
  simp only [Option.bind_eq_bind, Option.bind_eq_some_iff,
    Option.map_eq_some_iff, Option.some.injEq] at h
  obtain ⟨side, hside, main, hmain, h⟩ := h
  rw [map, BlockLayers.mk.injEq] at h
  obtain ⟨houtputs, hinputs, hstrideEq, hsideEq, rfl⟩ := h
  obtain ⟨declared, hdeclared, rfl⟩ := hside
  obtain ⟨s, hs, rfl⟩ := Option.map_eq_some_iff.1 hsideEq.symm
  have hfollows := MainLayers.follows_of_declared hmain
  rw [if_pos hstride] at hfollows
  exact ⟨houtputs.symm, hinputs.symm, hstrideEq.symm,
    ⟨s, hs, SideLayers.strides_of_declared hdeclared⟩, hfollows⟩

/-- A declared block keeps the three numbers that it was declared with. -/
theorem fields_of_declared {stride : Nat}
    (h : declare? outputs inputs stride = some (b.map Layer.blank)) :
    b.outputs = outputs ∧ b.inputs = inputs ∧ b.stride = stride := by
  by_cases hstride : 1 < stride
  · have hstrides := strides_of_declared hstride h
    exact ⟨hstrides.outputs_eq, hstrides.inputs_eq, hstrides.stride_eq⟩
  · rw [declare?, if_neg hstride] at h
    simp only [Option.bind_eq_bind, Option.bind_some, Option.bind_eq_some_iff,
      Option.some.injEq] at h
    obtain ⟨main, -, h⟩ := h
    rw [map, BlockLayers.mk.injEq] at h
    exact ⟨h.1.symm, h.2.1.symm, h.2.2.1.symm⟩

/-- To halve the image is to step over it by two. -/
theorem downsamples_iff :
    b.Downsamples outputs inputs ↔ b.Strides outputs inputs 2 := by
  constructor
  · intro h
    obtain ⟨s, hs, hside⟩ := h.side
    exact ⟨h.outputs_eq, h.inputs_eq, h.stride_eq,
      ⟨s, hs, hside.depthwise, hside.pointwise⟩, h.main⟩
  · intro h
    obtain ⟨s, hs, hside⟩ := h.side
    exact ⟨h.outputs_eq, h.inputs_eq, h.stride_eq,
      ⟨s, hs, hside.depthwise, hside.pointwise⟩, h.main⟩

/-- The first block of a stage halves its image. -/
theorem downsamples_of_declared
    (h : declare? outputs inputs 2 = some (b.map Layer.blank)) :
    b.Downsamples outputs inputs :=
  downsamples_iff.2 (strides_of_declared (by decide) h)

/-- A later block keeps it. -/
theorem keeps_of_declared
    (h : declare? width width 1 = some (b.map Layer.blank)) :
    b.Keeps width := by
  rw [declare?, if_neg (by omega)] at h
  simp only [Option.bind_eq_bind, Option.bind_some, Option.bind_eq_some_iff,
    Option.some.injEq] at h
  obtain ⟨main, hmain, h⟩ := h
  rw [map, BlockLayers.mk.injEq] at h
  obtain ⟨houtputs, hinputs, hstride, hsideEq, rfl⟩ := h
  exact ⟨houtputs.symm, hinputs.symm, hstride.symm,
    Option.map_eq_none_iff.1 hsideEq.symm, MainLayers.follows_of_declared hmain⟩

/-- Blocks declared one like the other. -/
theorem keeps_of_declared_row {n : Nat} {blocks : List BlockLayers}
    (h : ((List.replicate n ()).mapM fun _ => declare? width width 1)
      = some (blocks.map (BlockLayers.map Layer.blank))) :
    blocks.length = n ∧ ∀ b ∈ blocks, b.Keeps width := by
  induction n generalizing blocks with
  | zero =>
      simp only [List.replicate_zero, List.mapM_nil, Option.pure_def,
        Option.some.injEq] at h
      rw [List.map_eq_nil_iff.1 h.symm]
      exact ⟨rfl, fun _ hb => absurd hb List.not_mem_nil⟩
  | succ n ih =>
      simp only [List.replicate_succ, List.mapM_cons, Option.bind_eq_bind,
        Option.pure_def, Option.bind_eq_some_iff, Option.some.injEq] at h
      obtain ⟨first, hfirst, rest, hrest, h⟩ := h
      obtain ⟨b, later, rfl, rfl, rfl⟩ := List.map_eq_cons_iff.1 h.symm
      obtain ⟨hlength, hkeeps⟩ := ih hrest
      refine ⟨by rw [List.length_cons, hlength], fun c hc => ?_⟩
      rcases List.mem_cons.1 hc with rfl | hc
      · exact keeps_of_declared hfirst
      · exact hkeeps c hc

end BlockLayers

-- =============================================================== stages

/-- A stage of `repeats` blocks, of which the first halves the image. -/
structure StageLayers.Declared (s : StageLayers) (repeats outputs inputs : Nat)
    (first : BlockLayers) (later : List BlockLayers) : Prop where
  blocks_eq : s.blocks = first :: later
  repeats_eq : repeats = later.length + 1
  first : first.Downsamples outputs inputs
  later : ∀ b ∈ later, b.Keeps outputs

/-- A declared stage has a first block and later ones. -/
theorem StageLayers.exists_declared {s : StageLayers}
    {repeats outputs inputs : Nat} (hpos : 0 < repeats)
    (h : declare? repeats outputs inputs = some (s.map Layer.blank)) :
    ∃ first later, s.Declared repeats outputs inputs first later := by
  cases repeats with
  | zero => omega
  | succ n =>
      simp only [declare?, Option.ite_none_left_eq_some, Option.bind_eq_bind,
        Option.bind_eq_some_iff, Option.some.injEq] at h
      obtain ⟨-, first, hfirst, later, hlater, h⟩ := h
      rw [map, StageLayers.mk.injEq] at h
      obtain ⟨b, blocks, hblocks, rfl, rfl⟩ := List.map_eq_cons_iff.1 h.symm
      obtain ⟨hlength, hkeeps⟩ := BlockLayers.keeps_of_declared_row hlater
      exact ⟨b, blocks, hblocks, by
        rw [hlength], BlockLayers.downsamples_of_declared hfirst,
        hkeeps⟩

/-- Stages in a row, each from the width that the one before it gives; the
list pairs repeats and widths. -/
inductive StagesDeclared :
    (inputs : Nat) → List (Nat × Nat) → List StageLayers → Prop where
  | nil {inputs : Nat} : StagesDeclared inputs [] []
  | cons {inputs repeats width : Nat} {rest : List (Nat × Nat)}
      {s : StageLayers} {stages : List StageLayers}
      {first : BlockLayers} {later : List BlockLayers} :
      s.Declared repeats width inputs first later →
      StagesDeclared width rest stages →
      StagesDeclared inputs ((repeats, width) :: rest) (s :: stages)

/-- The stages of a plan are declared one after another, each from the width
before it. -/
theorem stagesDeclared_of_declareStages {inputs : Nat} {plan : List (Nat × Nat)}
    {stages : List StageLayers} (hpos : ∀ entry ∈ plan, 0 < entry.1)
    (h : Parameters.declareStages? inputs plan
      = some (stages.map (StageLayers.map Layer.blank))) :
    StagesDeclared inputs plan stages := by
  induction plan generalizing inputs stages with
  | nil =>
      simp only [Parameters.declareStages?, Option.some.injEq] at h
      rw [List.map_eq_nil_iff.1 h.symm]
      exact StagesDeclared.nil
  | cons entry rest ih =>
      obtain ⟨repeats, width⟩ := entry
      simp only [Parameters.declareStages?, Option.bind_eq_bind,
        Option.bind_eq_some_iff, Option.some.injEq] at h
      obtain ⟨stage, hstage, later, hlater, h⟩ := h
      obtain ⟨s, others, rfl, rfl, rfl⟩ := List.map_eq_cons_iff.1 h.symm
      obtain ⟨first, blocks, hdeclared⟩ :=
        StageLayers.exists_declared (hpos _ List.mem_cons_self) hstage
      exact StagesDeclared.cons hdeclared
        (ih (fun entry hentry => hpos entry (List.mem_cons_of_mem _ hentry))
          hlater)

-- ============================================================= networks

/-- The lists of an architecture fit together: a width for the stem, for
each stage and for the head, none of them zero, and stages that can be
halved. -/
structure Architecture.Valid (a : Architecture) (stem head : Nat)
    (stages : List Nat) : Prop where
  widths_eq : a.widths = stem :: stages ++ [head]
  length_eq : stages.length = a.repeats.length
  repeats_pos : ∀ n ∈ a.repeats, 0 < n
  stem_pos : 0 < stem
  head_pos : 0 < head
  stages_pos : ∀ w ∈ stages, 0 < w
  stages_even : ∀ w ∈ stages, w % 2 = 0

namespace Architecture.Valid

variable {a : Architecture} {first last : Nat} {middle : List Nat}

theorem headD_widths (h : a.Valid first last middle) :
    a.widths.headD 0 = first := by
  rw [h.widths_eq]
  rfl

theorem getLastD_widths (h : a.Valid first last middle) :
    a.widths.getLastD 0 = last := by
  rw [h.widths_eq, List.getLastD_concat]

theorem stageWidths_eq (h : a.Valid first last middle) :
    a.stageWidths = middle := by
  rw [stageWidths, h.widths_eq, List.cons_append, List.tail_cons,
    List.dropLast_concat]

/-- The plan pairs each stage with an even width above zero. -/
theorem plan_even (h : a.Valid first last middle) :
    ∀ entry ∈ a.repeats.zip middle, 0 < entry.2 ∧ entry.2 % 2 = 0 := by
  intro entry hentry
  have hmem := (List.of_mem_zip hentry).2
  exact ⟨h.stages_pos _ hmem, h.stages_even _ hmem⟩

/-- The head has channels to read. -/
theorem lastWidth_pos (h : a.Valid first last middle) :
    0 < (first :: middle).getLastD 0 := by
  rw [List.getLastD_cons]
  have hmem : middle.getLastD first ∈ first :: middle := List.getLastD_mem_cons
  rcases List.mem_cons.1 hmem with heq | hmem
  · rw [heq]
    exact h.stem_pos
  · exact h.stages_pos _ hmem

end Architecture.Valid

/-- A list of two or more has a first, a last and those between. -/
theorem exists_first_last {l : List Nat} {n : Nat} (h : l.length = n + 2) :
    ∃ first middle last, l = first :: middle ++ [last] ∧ middle.length = n := by
  cases l with
  | nil => simp at h
  | cons first rest =>
      have hrest : rest ≠ [] := by
        intro heq
        obtain rfl := heq
        simp at h
      refine ⟨first, rest.dropLast, rest.getLast hrest, ?_, ?_⟩
      · rw [List.cons_append, List.dropLast_concat_getLast hrest]
      · rw [List.length_dropLast]
        rw [List.length_cons] at h
        omega

/-- What the validation of an architecture accepts has the form that the
lemmas here work on. -/
theorem Architecture.valid_of_validate {a : Architecture}
    (h : a.validate = .ok ()) :
    ∃ stem head stages, a.Valid stem head stages := by
  unfold validate at h
  rw [Outcome.guard_eq_ok_iff] at h
  obtain ⟨hlength, h⟩ := h
  obtain ⟨stem, stages, head, hwidths, hstages⟩ :=
    exists_first_last (Decidable.not_not.1 hlength)
  have hmiddle : a.stageWidths = stages := by
    rw [stageWidths, hwidths, List.cons_append, List.tail_cons,
      List.dropLast_concat]
  cases hzero : a.repeats.findIdx? (· == 0) with
  | some stage => simp [hzero] at h
  | none =>
      simp only [hzero, Outcome.guard_eq_ok_iff] at h
      obtain ⟨hpos, h⟩ := h
      cases hodd : a.stageWidths.find? (· % 2 != 0) with
      | some width =>
          rw [hodd] at h
          simp at h
      | none =>
          rw [hmiddle] at hodd
          rw [List.contains_eq_mem, decide_eq_true_eq, hwidths] at hpos
          simp only [List.cons_append, List.mem_cons, List.mem_append,
            List.not_mem_nil, or_false, not_or] at hpos
          refine ⟨stem, head, stages, hwidths, hstages,
            fun n hn => ?_, by omega, by omega,
            fun w hw => ?_, fun w hw => ?_⟩
          · have := List.findIdx?_eq_none_iff.1 hzero n hn
            simp only [beq_eq_false_iff_ne] at this
            omega
          · have : w ≠ 0 := by
              intro heq
              obtain rfl := heq
              exact hpos.2.1 hw
            omega
          · have := List.find?_eq_none.1 hodd w hw
            simpa using this

/-- Parameters declared for an architecture, with any values. -/
structure Parameters.Declared (p : Parameters) (a : Architecture)
    (first last : Nat) (middle : List Nat) : Prop where
  valid : a.Valid first last middle
  stem : p.stem.Convolves first 3 (Window.square 3 2 1)
  stages : StagesDeclared first (a.repeats.zip middle) p.stages
  head : p.head.Convolves last ((first :: middle).getLastD 0)
    (Window.square 1 1 0)
  classifier : p.classifier.Connects 1 last

/-- Declared parameters follow their architecture, whatever values they were
filled with since. -/
theorem Parameters.declared_of_declare {a : Architecture} {p : Parameters}
    (h : declare a = .ok p.blank) :
    ∃ first last middle, p.Declared a first last middle := by
  simp only [declare, Outcome.bind_eq_ok_iff, Outcome.ofOption_eq_ok_iff,
    Option.bind_eq_bind, Option.bind_eq_some_iff, Option.some.injEq] at h
  obtain ⟨_, hvalidate, stages, hstages, stem, hstem, head, hhead, classifier,
    hclassifier, h⟩ := h
  obtain ⟨first, last, middle, hvalid⟩ :=
    Architecture.valid_of_validate hvalidate
  rw [blank, map, Parameters.mk.injEq] at h
  obtain ⟨-, rfl, rfl, rfl, rfl⟩ := h
  rw [hvalid.headD_widths, hvalid.stageWidths_eq] at hstages
  rw [hvalid.headD_widths] at hstem
  rw [hvalid.getLastD_widths, hvalid.widths_eq, List.dropLast_concat] at hhead
  rw [hvalid.getLastD_widths] at hclassifier
  refine ⟨first, last, middle, hvalid, Layer.convolves_of_declared hstem,
    stagesDeclared_of_declareStages (fun entry hentry => ?_) hstages,
    Layer.convolves_of_declared hhead, Layer.connects_of_declared hclassifier⟩
  exact hvalid.repeats_pos _ (List.of_mem_zip hentry).1

-- ================================================================ zeros

-- What is declared is blank. So it goes on every level.

section

variable {inputs outputs stride : Nat} {activation : Activation}

/-- A fresh layer holds no value but zeros. -/
theorem Layer.blank_of_declare {weights : Nat} {w : Window} {l : Layer}
    (h : declare? inputs outputs weights w activation = some l) :
    l.blank = l := by
  simp only [declare?, FireNet.zeros?, Option.bind_eq_bind,
    Option.bind_eq_some_iff,
    Option.ite_none_right_eq_some, Option.some.injEq] at h
  obtain ⟨_, ⟨-, rfl⟩, _, ⟨-, rfl⟩, rfl⟩ := h
  simp only [blank, Option.map_some, Array.size_replicate]
  rfl

theorem Layer.blank_of_convolution {kernel padding : Nat} {l : Layer}
    (h : convolution? outputs inputs kernel stride padding activation
      = some l) :
    l.blank = l := by
  simp only [convolution?, Option.bind_eq_bind, Option.bind_eq_some_iff] at h
  obtain ⟨_, -, _, -, _, -, h⟩ := h
  exact blank_of_declare h

theorem Layer.blank_of_depthwise {channels kernel padding : Nat} {l : Layer}
    (h : depthwise? channels kernel stride padding activation = some l) :
    l.blank = l := by
  simp only [depthwise?, Option.bind_eq_bind, Option.bind_eq_some_iff] at h
  obtain ⟨_, -, _, -, h⟩ := h
  exact blank_of_declare h

theorem Layer.blank_of_fullyConnected {l : Layer}
    (h : fullyConnected? outputs inputs activation = some l) : l.blank = l := by
  simp only [fullyConnected?, Option.bind_eq_bind, Option.bind_eq_some_iff] at h
  obtain ⟨_, -, h⟩ := h
  exact blank_of_declare h

theorem SideLayers.blank_of_declare {s : SideLayers}
    (h : declare? outputs inputs stride = some s) : s.map Layer.blank = s := by
  simp only [declare?, Option.bind_eq_bind, Option.bind_eq_some_iff,
    Option.some.injEq] at h
  obtain ⟨depthwise, hdepthwise, pointwise, hpointwise, rfl⟩ := h
  rw [map, Layer.blank_of_depthwise hdepthwise,
    Layer.blank_of_convolution hpointwise]

theorem MainLayers.blank_of_declare {m : MainLayers}
    (h : declare? outputs inputs stride = some m) : m.map Layer.blank = m := by
  simp only [declare?, Option.bind_eq_bind, Option.bind_eq_some_iff,
    Option.some.injEq] at h
  obtain ⟨reduce, hreduce, depthwise, hdepthwise, expand, hexpand, rfl⟩ := h
  rw [map, Layer.blank_of_convolution hreduce,
    Layer.blank_of_depthwise hdepthwise, Layer.blank_of_convolution hexpand]

/-- A fresh block holds none either, whichever way it has. -/
theorem BlockLayers.blank_of_declare {b : BlockLayers}
    (h : declare? outputs inputs stride = some b) : b.map Layer.blank = b := by
  by_cases hstride : 1 < stride
  · rw [declare?, if_pos hstride] at h
    simp only [Option.bind_eq_bind, Option.bind_eq_some_iff,
      Option.map_eq_some_iff, Option.some.injEq] at h
    obtain ⟨_, ⟨side, hside, rfl⟩, main, hmain, rfl⟩ := h
    rw [map, MainLayers.blank_of_declare hmain, Option.map_some,
      SideLayers.blank_of_declare hside]
  · rw [declare?, if_neg hstride] at h
    simp only [Option.bind_eq_bind, Option.bind_some, Option.bind_eq_some_iff,
      Option.some.injEq] at h
    obtain ⟨main, hmain, rfl⟩ := h
    rw [map, MainLayers.blank_of_declare hmain, Option.map_none]

theorem BlockLayers.blank_of_declare_row {n : Nat} {blocks : List BlockLayers}
    (h : ((List.replicate n ()).mapM fun _ => declare? outputs inputs stride)
      = some blocks) :
    blocks.map (BlockLayers.map Layer.blank) = blocks := by
  induction n generalizing blocks with
  | zero =>
      simp only [List.replicate_zero, List.mapM_nil, Option.pure_def,
        Option.some.injEq] at h
      subst h
      rfl
  | succ n ih =>
      simp only [List.replicate_succ, List.mapM_cons, Option.bind_eq_bind,
        Option.pure_def, Option.bind_eq_some_iff, Option.some.injEq] at h
      obtain ⟨first, hfirst, rest, hrest, rfl⟩ := h
      rw [List.map_cons, blank_of_declare hfirst, ih hrest]

theorem StageLayers.blank_of_declare {repeats : Nat} {s : StageLayers}
    (h : declare? repeats outputs inputs = some s) : s.map Layer.blank = s := by
  simp only [declare?, Option.ite_none_left_eq_some] at h
  obtain ⟨-, h⟩ := h
  cases repeats with
  | zero =>
      cases h
      rfl
  | succ n =>
      simp only [Option.bind_eq_bind, Option.bind_eq_some_iff,
        Option.some.injEq] at h
      obtain ⟨first, hfirst, later, hlater, rfl⟩ := h
      rw [map, List.map_cons, BlockLayers.blank_of_declare hfirst,
        BlockLayers.blank_of_declare_row hlater]

theorem Parameters.blank_of_declareStages {plan : List (Nat × Nat)}
    {stages : List StageLayers} (h : declareStages? inputs plan = some stages) :
    stages.map (StageLayers.map Layer.blank) = stages := by
  induction plan generalizing inputs stages with
  | nil =>
      cases h
      rfl
  | cons entry rest ih =>
      obtain ⟨repeats, width⟩ := entry
      simp only [declareStages?, Option.bind_eq_bind, Option.bind_eq_some_iff,
        Option.some.injEq] at h
      obtain ⟨stage, hstage, later, hlater, rfl⟩ := h
      rw [List.map_cons, StageLayers.blank_of_declare hstage, ih hlater]

end

/-- Declared parameters are zeros. -/
theorem Parameters.blank_of_declare {a : Architecture} {p : Parameters}
    (h : declare a = .ok p) : p.blank = p := by
  simp only [declare, Outcome.bind_eq_ok_iff, Outcome.ofOption_eq_ok_iff,
    Option.bind_eq_bind, Option.bind_eq_some_iff, Option.some.injEq] at h
  obtain ⟨_, -, stages, hstages, stem, hstem, head, hhead, classifier,
    hclassifier, rfl⟩ := h
  rw [blank, map, Layer.blank_of_convolution hstem,
    Layer.blank_of_convolution hhead,
    Layer.blank_of_fullyConnected hclassifier, blank_of_declareStages hstages]

/-- Random values filled into declared parameters leave all else. -/
theorem Parameters.exists_randomized (a : Architecture) (seed : UInt64)
    (h : (declare a).toOption.isSome = true) :
    ∃ p : Parameters, declare a = .ok p.blank := by
  cases hdeclare : declare a with
  | error e => simp [hdeclare, Except.toOption] at h
  | ok p =>
      refine ⟨p.randomize seed, ?_⟩
      rw [randomize, blank_randomizeWith, blank_of_declare hdeclare]

end FireNet
