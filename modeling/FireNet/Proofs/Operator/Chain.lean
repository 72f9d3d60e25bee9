/-
A stage is a chain. Each block is bound to the output of the one before it:
besides the tensors that it writes itself it reads that one and no other
(`Block.ReadsFrom`). Only the first block makes the image smaller. Of the
later ones nothing checks the shape, but a block of stride 1 gives back the
shape it was given (`Block.Binds.output_shape_of_keep`), so along the chain
all outputs have the shape of the first.

A pass goes down the same chain (`Stage.Links`): every block finds in its
source what the block before it left there, and no later block writes it,
because each writes only tensors numbered behind all those before it.
-/
import FireNet.Proofs.Operator.Extends
import FireNet.Proofs.Operator.Layout
import FireNet.Proofs.Operator.Stage

set_option autoImplicit false

namespace FireNet

variable {b b' : Bench} {name : String} {handle : Handle} {input : TensorId}

-- ================================================================ reads

/-- The tensor that a pass reads. -/
def Primitive.reads (p : Primitive) : List TensorId := [p.input]

/-- The tensor that it halves. -/
def Split.reads (s : Split) : List TensorId := [s.input]

/-- The two tensors that it puts together. -/
def Interleave.reads (s : Interleave) : List TensorId := [s.first, s.second]

/-- What its two primitives read. -/
def SideBranch.reads (b : SideBranch) : List TensorId :=
  b.depthwise.reads ++ b.pointwise.reads

/-- What its three primitives read. -/
def MainBranch.reads (b : MainBranch) : List TensorId :=
  b.reduce.reads ++ (b.depthwise.reads ++ b.expand.reads)

/-- What stands on the path reads. -/
def BlockPath.reads : BlockPath → List TensorId
  | downsample side main => side.reads ++ main.reads
  | keep split main => split.reads ++ main.reads

/-- What the path and the shuffle read. -/
def Block.reads (b : Block) : List TensorId := b.path.reads ++ b.shuffle.reads

/-- What the blocks read. -/
def Stage.reads (s : Stage) : List TensorId := s.blocks.flatMap Block.reads

/-- The tensors that a pass reads, among them those of the operator's own
that it fills before. -/
def Operator.reads : Operator → List TensorId
  | primitive p => p.reads
  | split s => s.reads
  | interleave i => i.reads
  | sideBranch b => b.reads
  | mainBranch b => b.reads
  | block b => b.reads
  | stage s => s.reads

/-- Besides the tensors that it writes itself, a block reads one. -/
def Block.ReadsFrom (block : Block) (source : TensorId) : Prop :=
  ∀ id, id ∈ block.reads ∧ id ∉ block.writes ↔ id = source

/-- Whoever reads and writes these reads `source`, and else only what it
writes. -/
structure Feeds (source : TensorId) (reads writes : List TensorId) : Prop where
  source_mem : source ∈ reads
  closed : ∀ id ∈ reads, id = source ∨ id ∈ writes

namespace Feeds

variable {source mid : TensorId} {reads writes more others : List TensorId}

/-- What reads only tensors written before it changes nothing. -/
theorem append (h : Feeds source reads writes)
    (hmore : ∀ id ∈ more, id = source ∨ id ∈ writes ++ others) :
    Feeds source (reads ++ more) (writes ++ others) := by
  refine ⟨List.mem_append_left more h.source_mem, fun id hid => ?_⟩
  rcases List.mem_append.1 hid with hid | hid
  · exact (h.closed id hid).imp_right (List.mem_append_left others)
  · exact hmore id hid

/-- Two in a row, the second fed by the first or from where the first is. -/
theorem andThen (h : Feeds source reads writes) (h' : Feeds mid more others)
    (hmid : mid = source ∨ mid ∈ writes) :
    Feeds source (reads ++ more) (writes ++ others) := by
  refine h.append fun id hid => ?_
  rcases h'.closed id hid with rfl | hid
  · exact hmid.imp_right (List.mem_append_left others)
  · exact .inr (List.mem_append_right writes hid)

end Feeds

/-- A convolution is fed by the tensor that it is given. -/
theorem Binding.convolve_feeds {kind : Layer → Action} {layer : Layer}
    {p : Primitive}
    (h : Binding.convolve name kind layer input handle b = .ok p b') :
    Feeds input p.reads p.writes := by
  obtain ⟨_, _, -, -, -, -, -, rfl, -⟩ := Binding.convolve_eq_ok_iff.1 h
  exact ⟨List.mem_singleton.2 rfl, fun _ hid => .inl (List.mem_singleton.1 hid)⟩

/-- A side branch reads its input, and else what it wrote. -/
theorem SideBranch.setup_feeds {layers : SideLayers} {side : SideBranch}
    (h : SideBranch.setup name input layers handle b = .ok side b') :
    Feeds input side.reads side.writes := by
  obtain ⟨after, hafter, -⟩ := Binding.balanced_eq_ok_iff.1 h
  simp only [Step.bind_eq_ok_iff, Step.pure_eq_ok_iff] at hafter
  obtain ⟨depthwise, b₁, h₁, pointwise, b₂, h₂, rfl, -⟩ := hafter
  exact (Binding.convolve_feeds h₁).andThen (Binding.convolve_feeds h₂)
    (.inr (List.mem_singleton.2 rfl))

theorem MainBranch.setup_feeds {layers : MainLayers} {main : MainBranch}
    (h : MainBranch.setup name input layers handle b = .ok main b') :
    Feeds input main.reads main.writes := by
  obtain ⟨after, hafter, -⟩ := Binding.balanced_eq_ok_iff.1 h
  simp only [Step.bind_eq_ok_iff, Step.pure_eq_ok_iff] at hafter
  obtain ⟨reduce, b₁, h₁, depthwise, b₂, h₂, expand, b₃, h₃, rfl, -⟩ := hafter
  exact (Binding.convolve_feeds h₁).andThen ((Binding.convolve_feeds h₂).andThen
    (Binding.convolve_feeds h₃) (.inr (List.mem_singleton.2 rfl)))
    (.inr (List.mem_singleton.2 rfl))

/-- The results of a path are among the tensors that it writes. -/
theorem BlockPath.results_mem_writes (path : BlockPath) :
    path.first ∈ path.writes ∧ path.second ∈ path.writes := by
  have hexpand (main : MainBranch) : main.output ∈ main.writes :=
    List.mem_append_right _ (List.mem_append_right _ (List.mem_singleton.2 rfl))
  cases path with
  | downsample side main =>
      exact ⟨List.mem_append_left _
        (List.mem_append_right _ (List.mem_singleton.2 rfl)),
        List.mem_append_right _ (hexpand main)⟩
  | keep split main =>
      exact ⟨List.mem_append_left _ List.mem_cons_self,
        List.mem_append_right _ (hexpand main)⟩

namespace Block

variable {layers : BlockLayers} {block : Block}

/-- So does either way through a block, the halves being its own. -/
theorem setupPath_feeds {image : Shape} {path : BlockPath}
    (h : setupPath name input image layers handle b = .ok path b') :
    Feeds input path.reads path.writes := by
  rcases setupPath_cases h with ⟨half, split, main, b₁, -, -, -,
    hsplit, hmain, rfl⟩
    | ⟨sideLayers, side, main, b₁, -, -, hside, hmain, rfl⟩
  · obtain ⟨_, _, _, -, -, -, -, rfl, -⟩ := Split.setup_eq_ok_iff.1 hsplit
    refine Feeds.andThen ⟨List.mem_singleton.2 rfl,
      fun _ hid => .inl (List.mem_singleton.1 hid)⟩
      (MainBranch.setup_feeds hmain)
        (.inr (List.mem_cons_of_mem _ List.mem_cons_self))
  · exact (SideBranch.setup_feeds hside).andThen (MainBranch.setup_feeds hmain)
      (.inl rfl)

/-- A bound block reads from its input. -/
theorem setup_readsFrom (h : setup name input layers handle b = .ok block b') :
    block.ReadsFrom input := by
  obtain ⟨b₁, image, half, hbinds⟩ := exists_binds h
  obtain ⟨hfirst, hsecond⟩ := block.path.results_mem_writes
  have hfeeds : Feeds input block.reads block.writes := by
    refine (setupPath_feeds hbinds.path).append fun id hid => ?_
    rw [hbinds.shuffle_eq] at hid
    simp only [Interleave.reads, List.mem_cons, List.not_mem_nil,
      or_false] at hid
    rcases hid with rfl | rfl
    · exact .inr (List.mem_append_left _ hfirst)
    · exact .inr (List.mem_append_left _ hsecond)
  -- all that the block writes is numbered behind its input
  have hextends : Extends (setup name input layers handle) [] _ := setup_extends
  obtain ⟨more, hgrows, hwrites⟩ := hextends.ok b b' block h
  obtain rfl : more = block.writes := hwrites
  have hfresh : input ∉ block.writes := by
    rw [hgrows.mem_iff]
    have := Arena.shape?_eq_some_lt hbinds.input_shape
    omega
  intro id
  constructor
  · intro hall
    exact (hfeeds.closed id hall.1).resolve_right hall.2
  · rintro rfl
    exact ⟨hfeeds.source_mem, hfresh⟩

-- =============================================================== shapes

/-- A bound block has two branches exactly where its layers make the image
smaller. -/
theorem Binds.isDownsample_eq {b₁ : Bench} {image half : Shape}
    (h : Binds name input layers handle b b₁ b' image half block) :
    block.isDownsample = layers.isDownsample := by
  rcases setupPath_cases h.path with ⟨_, _, _, _, ⟨hstride, -⟩, -, -,
    -, -, hpath⟩
    | ⟨_, _, _, _, hstride, -, -, -, hpath⟩
  · rw [isDownsample, hpath, BlockLayers.isDownsample, hstride]
    rfl
  · rw [isDownsample, hpath, BlockLayers.isDownsample, decide_eq_true hstride]

/-- One that does not make the image smaller gives back its shape. -/
theorem Binds.output_shape_of_keep {b₁ : Bench} {image half : Shape}
    (h : Binds name input layers handle b b₁ b' image half block)
    (hkeep : layers.isDownsample = false) :
    half.withChannels layers.outputs = image := by
  rcases setupPath_cases h.path with ⟨half', split, main, b₂, ⟨-, -, hsame⟩,
    hhalf', -, hsplit,
      hmain, hpath⟩ | ⟨_, _, _, _, hstride, -⟩
  · -- the first result is the half that was allocated
    obtain ⟨_, _, _, -, -, -, -, rfl, rfl⟩ := Split.setup_eq_ok_iff.1 hsplit
    have hfirst := h.first_shape
    rw [hpath] at hfirst
    have hnew : b₁.arena.shape? ⟨b.arena.tensors.size⟩ = some half' :=
      (MainBranch.setup_computes hmain).1.shape?
        (Arena.shape?_grow_added (i := 0))
    obtain rfl : half' = half := Option.some.inj (hnew.symm.trans hfirst)
    rw [hhalf', ← hsame, ← h.inputs_eq]
    rfl
  · rw [BlockLayers.isDownsample, decide_eq_false_iff_not] at hkeep
    exact absurd hstride hkeep

end Block

-- =============================================================== chains

namespace Stage

/-- Layers and blocks side by side, each with the tensor that the block is
bound to: the first one to `source`, every later one to the output of the
one before it. -/
inductive Links (R : TensorId → BlockLayers → Block → Prop) :
    (source : TensorId) → List BlockLayers → List Block → Prop where
  | nil {source : TensorId} : Links R source [] []
  | cons {source : TensorId} {l : BlockLayers} {block : Block}
      {rest : List BlockLayers} {later : List Block} : R source l block →
      Links R block.output rest later →
      Links R source (l :: rest) (block :: later)

namespace Links

variable {R : TensorId → BlockLayers → Block → Prop} {source : TensorId}
  {layers : List BlockLayers} {blocks : List Block}

/-- What holds of each linked block holds of all. -/
theorem forall_blocks {P : Block → Prop} (h : Links R source layers blocks)
    (hP : ∀ source, ∀ l ∈ layers, ∀ block, R source l block → P block) :
    ∀ block ∈ blocks, P block := by
  induction h with
  | nil => exact fun _ hmem => absurd hmem List.not_mem_nil
  | cons hlink _ ih =>
      exact List.forall_mem_cons.2 ⟨hP _ _ List.mem_cons_self _ hlink,
        ih fun source l hl => hP source l (List.mem_cons_of_mem _ hl)⟩

/-- What holds of each linked layer holds of all. -/
theorem forall_layers {P : BlockLayers → Prop}
    (h : Links R source layers blocks)
    (hP : ∀ source l block, R source l block → P l) : ∀ l ∈ layers, P l := by
  induction h with
  | nil => exact fun _ hmem => absurd hmem List.not_mem_nil
  | cons hlink _ ih => exact List.forall_mem_cons.2 ⟨hP _ _ _ hlink, ih⟩

end Links

/-- A block as it stands in a chain whose outputs have one shape. -/
structure Linked (layout : Arena) (shape : Shape) (source : TensorId)
    (l : BlockLayers) (block : Block) : Prop where
  reads : block.ReadsFrom source
  kind : block.isDownsample = l.isDownsample
  output_shape : layout.shape? block.output = some shape
  outputs_eq : l.outputs = shape.channels

/-- The output of the block holds what its layers make of the source on a
backend. -/
def Carries (backend : Backend) (a : Arena) (source : TensorId)
    (l : BlockLayers) (block : Block) : Prop :=
  ∃ x y : Tensor Single,
    a.tensor? source = some x ∧ a.tensor? block.output = some y
      ∧ l.run? backend x = some y

variable {layers : List BlockLayers} {index : Nat} {source : TensorId}
  {blocks : List Block}

/-- Blocks in a row only add tensors. -/
theorem setupBlocks_grows
    (h : setupBlocks name handle index source layers b = .ok blocks b') :
    b.arena.Grows b'.arena := by
  have hextends : Extends (setupBlocks name handle index source layers) [] _ :=
    setupBlocks_extends
  obtain ⟨_, hgrows, -⟩ := hextends.ok b b' blocks h
  exact hgrows.grows

/-- Blocks that keep the size, bound in a row, are linked, and the shape of
the first source goes down the chain. -/
theorem setupBlocks_linked {image : Shape}
    (hkeep : ∀ l ∈ layers, l.isDownsample = false)
    (hsource : b.arena.shape? source = some image)
    (h : setupBlocks name handle index source layers b = .ok blocks b') :
    Links (Linked b'.arena image) source layers blocks := by
  induction layers generalizing index source blocks b with
  | nil =>
      simp only [setupBlocks, Step.pure_eq_ok_iff] at h
      obtain ⟨rfl, -⟩ := h
      exact .nil
  | cons l rest ih =>
      simp only [setupBlocks, Step.bind_eq_ok_iff, Step.pure_eq_ok_iff] at h
      obtain ⟨block, b₁, hblock, later, b₂, hlater, rfl, rfl⟩ := h
      obtain ⟨hfirst, hrest⟩ := List.forall_mem_cons.1 hkeep
      obtain ⟨_, image', half, hbinds⟩ := Block.exists_binds hblock
      obtain rfl := Option.some.inj (hsource.symm.trans hbinds.input_shape)
      have hshape := hbinds.output_shape_of_keep hfirst
      have hout : b₁.arena.shape? block.output = some image :=
        hshape ▸ hbinds.output_shape
      exact .cons ⟨Block.setup_readsFrom hblock, hbinds.isDownsample_eq,
        (setupBlocks_grows hlater).shape? hout, congrArg Shape.channels hshape⟩
        (ih hrest hout hlater)

/-- A pass of blocks bound in a row leaves every one of them with its value.
Later blocks write behind what the earlier ones wrote. -/
theorem setupBlocks_carry (hsource : source.index < b.arena.tensors.size)
    (h : setupBlocks name handle index source layers b = .ok blocks b')
    {a : Arena} (ha : a.Covers b'.arena) {x : Tensor Single}
    (hx : a.tensor? source = some x) :
    ∃ a', forwardBlocks blocks a = .ok () a'
      ∧ Links (Carries handle.backend a') source layers blocks
      ∧ a.Rewrites a' b.arena.tensors.size b'.arena.tensors.size := by
  induction layers generalizing index source blocks b a x with
  | nil =>
      simp only [setupBlocks, Step.pure_eq_ok_iff] at h
      obtain ⟨rfl, -⟩ := h
      exact ⟨a, rfl, .nil, Arena.Rewrites.refl⟩
  | cons l rest ih =>
      simp only [setupBlocks, Step.bind_eq_ok_iff, Step.pure_eq_ok_iff] at h
      obtain ⟨block, b₁, hblock, later, b₂, hlater, rfl, rfl⟩ := h
      have hgrows := setupBlocks_grows hlater
      obtain ⟨hgrows₁, hcomputes⟩ := Block.setup_computes hblock
      obtain ⟨y, a₁, hrun, hstep, hcovers, hout, hrewrites⟩ :=
        (hcomputes.grow hgrows).run a x ha hx
      obtain ⟨a', hsteps, hcarry, hrewrites'⟩ :=
        ih hcomputes.output_lt hlater hcovers hout
      refine ⟨a', Step.bind_eq_ok_iff.2 ⟨(), a₁, hstep, hsteps⟩,
        .cons ⟨x, y, ?_, ?_, hrun⟩ hcarry,
        (hrewrites.widen (Nat.le_refl _) hgrows.size_le).trans
          (hrewrites'.widen hgrows₁.size_le (Nat.le_refl _))⟩
      · rw [hrewrites' source
          (.inl (Nat.lt_of_lt_of_le hsource hgrows₁.size_le)),
          hrewrites source (.inl hsource), hx]
      · rw [hrewrites' block.output (.inl hcomputes.output_lt), hout]

/-- A bound stage is a chain of blocks over its input. The first one makes
the image smaller and no other does; all outputs have one shape, with the
channels that the layers give the last of them, which is the output of the
stage. A pass leaves in every output what the layers of its block make of
the output before, on the backend of the handle and whatever the tensors
held. -/
theorem setup_chains {number : Nat} {layers : StageLayers} {stage : Stage}
    (h : setup number input layers handle b = .ok stage b') :
    (stage.head.isDownsample = true ∧ ∀ block ∈ stage.tail,
      block.isDownsample = false)
      ∧ (∃ shape, Links (Linked b'.arena shape) input layers.blocks stage.blocks
        ∧ b'.arena.shape? stage.output = some shape
        ∧ layers.outputs? = some shape.channels)
      ∧ stage.blocks.getLast?.map Block.output = some stage.output
      ∧ ∀ a : Arena, a.Covers b'.arena → ∃ a', stage.forward a = .ok () a'
        ∧ Links (Carries handle.backend a') input layers.blocks stage.blocks
        ∧ a'.tensor? input = a.tensor? input := by
  obtain ⟨first, later, b₁, b₂, hblocks, hfirst, hlater, hhead, htail,
    harena⟩ := setup_cases h
  obtain ⟨_, image, half, hbinds⟩ := Block.exists_binds hhead
  have hgrows := setupBlocks_grows htail
  have hlinked :
    Links (Linked b₂.arena (half.withChannels first.outputs))
      stage.head.output later
      stage.tail := setupBlocks_linked hlater hbinds.output_shape htail
  have hout : b₂.arena.shape? stage.head.output
      = some (half.withChannels first.outputs) :=
    hgrows.shape? hbinds.output_shape
  have hchain : Links (Linked b'.arena (half.withChannels first.outputs)) input
    layers.blocks
      stage.blocks := by
    rw [harena, hblocks]
    exact .cons ⟨Block.setup_readsFrom hhead, hbinds.isDownsample_eq, hout, rfl⟩
      hlinked
  have hlast : stage.blocks.getLast? = some (stage.tail.getLastD stage.head) :=
    List.getLast?_cons.trans (congrArg some List.getLastD_eq_getLast?.symm)
  -- the output is that of the last block, of which the links tell the shape
  have hshapes := hchain.forall_blocks fun _ _ _ _ hlink => hlink.output_shape
  have houtputs := hchain.forall_layers fun _ _ _ hlink => hlink.outputs_eq
  refine ⟨⟨hbinds.isDownsample_eq.trans hfirst, ?_⟩,
    ⟨_, hchain, ?_, ?_⟩, ?_, ?_⟩
  · exact hlinked.forall_blocks fun _ l hl _ hlink =>
      hlink.kind.trans (hlater l hl)
  · exact hshapes _ (List.mem_of_getLast? hlast)
  · rw [StageLayers.outputs?, hblocks, List.getLast?_cons,
      ← List.getLastD_eq_getLast?, Option.map_some, Option.some.injEq]
    rw [hblocks] at houtputs
    exact houtputs _ List.getLastD_mem_cons
  · rw [hlast]
    rfl
  · intro a ha
    obtain ⟨after, hrow, harena'⟩ := setup_row h
    rw [harena'] at ha
    have hlt : input.index < b.arena.tensors.size :=
      Arena.shape?_eq_some_lt hbinds.input_shape
    obtain ⟨x, hx, -⟩ :=
      ha _ _ ((setupBlocks_grows hrow).shape? hbinds.input_shape)
    obtain ⟨a', hrun, hcarry, hrewrites⟩ :=
      setupBlocks_carry (b := ⟨b.arena, #[]⟩) hlt hrow ha hx
    exact ⟨a', hrun, hcarry, hrewrites input (.inl hlt)⟩

/-- Three declared blocks over an image of six pixels, on vector
instructions. -/
theorem setup_chains_three :
    ∃ (layers : StageLayers) (stage : Stage) (b' : Bench) (a' : Arena),
      layers.blocks.length = 3
        ∧ setup 2 ⟨0⟩ layers ⟨.vector⟩
          (Bench.ofArena (Arena.empty.grow [⟨2, 3, 3⟩]))
          = .ok stage b'
        ∧ stage.forward b'.arena = .ok () a'
        ∧ Links (Carries .vector a') ⟨0⟩ layers.blocks stage.blocks := by
  obtain ⟨layers, hlayers⟩ : ∃ layers,
    StageLayers.declare? 3 4 3 = some layers := ⟨_, rfl⟩
  obtain ⟨first, later, hdeclared⟩ := StageLayers.exists_declared (by decide)
    (hlayers.trans (congrArg some (StageLayers.blank_of_declare hlayers).symm))
  have himage : (Shape.mk 2 3 3).Paddable :=
    ⟨by decide, by decide, by decide, by decide⟩
  have hin : (Arena.empty.grow [⟨2, 3, 3⟩]).shape? ⟨0⟩ = some ⟨2, 3, 3⟩ := rfl
  obtain ⟨stage, b', hsetup⟩ :=
    (hdeclared.allocates (by decide) (by decide) (by decide) himage hin
    rfl).succeeds (Bench.ofArena (Arena.empty.grow [⟨2, 3, 3⟩])) rfl (by decide)
  have hsound : (Arena.empty.grow [⟨2, 3, 3⟩]).Sound :=
    Arena.empty_sound.grows ⟨_, by decide, rfl⟩
  have hcovers : b'.arena.Covers b'.arena :=
    (hsound.grows (setup_computes hsetup).1).covers
  obtain ⟨-, -, -, hruns⟩ := setup_chains hsetup
  obtain ⟨a', hrun, hcarry, -⟩ := hruns b'.arena hcovers
  have hlength : layers.blocks.length = 3 := by
    rw [hdeclared.blocks_eq, List.length_cons, ← hdeclared.repeats_eq]
  exact ⟨layers, stage, b', a', hlength, hsetup, hrun, hcarry⟩

end Stage

end FireNet
