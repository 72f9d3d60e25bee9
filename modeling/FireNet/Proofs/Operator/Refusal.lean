/-
The first offender. A stage has many places that can be wrong, and several
may be wrong at once; a set-up that fails reports the one that stands first
in the order of binding (`Stage.setup_blames_first`).

The list of blocks is looked at before anything is bound. After that,
blocks in a stage and convolutions in a branch are both rows, each member
bound to the output of the one before it, and a row halts at its first
member that is not bound (`Halts`). What comes before is there then, so that
member offends with shapes that are known, and each of its checks is judged
by what the whole of it asks for. Between the rows stand the checks of a
block: those of its numbers before all else, the split before the main
branch, the interleave behind everything (`Block.Stops`).

The numbers leave the split nothing to refuse (`BlockLayers.Suits.splits`),
so a set-up ends there only for want of room.
-/
import FireNet.Proofs.Operator.Blame
import FireNet.Proofs.Operator.Block
import FireNet.Proofs.Operator.Layout

set_option autoImplicit false

namespace FireNet

variable {b b' : Bench} {name : String} {handle : Handle} {input : TensorId}
  {image : Shape} {f : Failure}

-- ================================================================== rows

/-- A row of set-ups, each bound to the output of the one before it, halts
at the first that is not bound: from this bench on, all before it are bound
and it offends. -/
inductive Halts {ι α : Type} (setup : Nat → TensorId → ι → Binding α)
    (output : α → TensorId) (Offends : Nat → TensorId → ι → Bench → Prop) :
    (index : Nat) → (source : TensorId) → List ι → Bench → Prop where
  | here {index : Nat} {source : TensorId} {i : ι} {rest : List ι} {b : Bench} :
    Offends index source i b →
      Halts setup output Offends index source (i :: rest) b
  | later {index : Nat} {source : TensorId} {i : ι} {rest : List ι}
      {b b₁ : Bench} {x : α} :
    setup index source i b = .ok x b₁ →
    Halts setup output Offends (index + 1) (output x) rest b₁ →
    Halts setup output Offends index source (i :: rest) b

/-- Where a row of convolutions halts: one that does not suit the image that
it was to be bound to. -/
def Convolution.RowHalts (name : String) (handle : Handle) (f : Failure) :
    (index : Nat) → (source : TensorId) → List Convolution → Bench → Prop :=
  Halts (fun j source c => Binding.convolve s!"{name}.conv{j}" c.kind c.layer
    source handle) Primitive.output
    fun j source c b => ∃ image, b.arena.shape? source = some image
      ∧ f.Blames s!"{name}.conv{j}" (c.Suits image) (c.InWords image)

namespace Convolution

variable {c : Convolution} {rest : List Convolution} {index : Nat}
  {source : TensorId}

/-- A branch that fails from one of its convolutions on. -/
theorem rowHalts_of_bind {β : Type} {text : String} {g : Primitive → Binding β}
    (hin : b.arena.shape? source = some image)
    (h : (Binding.convolve s!"{name}{text}" c.kind c.layer source handle >>= g)
      b = .error f b')
    (htext : text = ".conv" ++ toString index)
    (hlater : ∀ p b₁ shape,
      b₁.arena.shape? p.output = some shape → g p b₁ = .error f b' →
        RowHalts name handle f (index + 1) p.output rest b₁) :
    RowHalts name handle f index source (c :: rest) b := by
  have hname : s!"{name}{text}" = s!"{name}.conv{index}" := by
    simp only [htext, toString, String.append_assoc]
  rw [hname] at h
  rcases Step.bind_eq_error_iff.1 h with h | ⟨p, b₁, hp, h⟩
  · exact .here ⟨image, hin, bind_blames hin f b' h⟩
  · obtain ⟨_, shape, -, -, -, -, -, hp', hb₁⟩ :=
      Binding.convolve_eq_ok_iff.1 hp
    refine .later hp (hlater p b₁ shape ?_ h)
    rw [hp', hb₁]
    exact Arena.shape?_grow_added (i := 0)

end Convolution

/-- The convolutions of a branch, in the order of binding. -/
def SideLayers.row (layers : SideLayers) : List Convolution :=
  [.depthwise layers.depthwise, .dense layers.pointwise]

/-- The convolutions of a main branch, in order. -/
def MainLayers.row (layers : MainLayers) : List Convolution :=
  [.dense layers.reduce, .depthwise layers.depthwise, .dense layers.expand]

/-- A side branch that is refused stops in its row of convolutions. -/
theorem SideBranch.halts_of_setup {layers : SideLayers}
    (hin : b.arena.shape? input = some image)
    (h : SideBranch.setup name input layers handle b = .error f b') :
    Convolution.RowHalts name handle f 0 input layers.row ⟨b.arena, #[]⟩ := by
  obtain ⟨after, h⟩ := Binding.exists_of_balanced_eq_error h
  refine Convolution.rowHalts_of_bind hin h
    rfl fun depthwise b₁ mid hmid h => ?_
  refine Convolution.rowHalts_of_bind hmid h
    rfl fun pointwise b₂ last hlast h => ?_
  cases h

theorem MainBranch.halts_of_setup {layers : MainLayers}
    (hin : b.arena.shape? input = some image)
    (h : MainBranch.setup name input layers handle b = .error f b') :
    Convolution.RowHalts name handle f 0 input layers.row ⟨b.arena, #[]⟩ := by
  obtain ⟨after, h⟩ := Binding.exists_of_balanced_eq_error h
  refine Convolution.rowHalts_of_bind hin h
    rfl fun reduce b₁ first hfirst h => ?_
  refine Convolution.rowHalts_of_bind hfirst h
    rfl fun depthwise b₂ mid hmid h => ?_
  refine Convolution.rowHalts_of_bind hmid h
    rfl fun expand b₃ last hlast h => ?_
  cases h

-- ================================================================ blocks

/-- What a block checks by itself before it binds anything. -/
structure BlockLayers.Suits (layers : BlockLayers) (image : Shape) : Prop where
  channels_eq : image.channels = layers.inputs
  outputs_pos : 0 < layers.outputs
  outputs_even : layers.outputs % 2 = 0
  path : (layers.stride = 1 ∧ layers.side = none
    ∧ layers.inputs = layers.outputs)
    ∨ (1 < layers.stride ∧ layers.side ≠ none)

/-- A block without a side branch has an even number of channels to split. -/
theorem BlockLayers.Suits.splits {layers : BlockLayers} (h : layers.Suits image)
    (hside : layers.side = none) :
    0 < image.channels ∧ image.channels % 2 = 0 := by
  rcases h.path with ⟨-, -, hsame⟩ | ⟨-, hsome⟩
  · rw [h.channels_eq, hsame]
    exact ⟨h.outputs_pos, h.outputs_even⟩
  · exact absurd hside hsome

/-- Where a block halts that is bound to an image, with all that was bound
before it. -/
inductive Block.Stops (name : String) (input : TensorId) (layers : BlockLayers)
    (handle : Handle) (b : Bench) (image : Shape) (f : Failure) : Prop where
  /-- At a check of its own. -/
  | own : f.Blames name (layers.Suits image) True →
      Stops name input layers handle b image f
  /-- At its split. -/
  | split : layers.Suits image → layers.side = none →
    f.Blames s!"{name}.split" (0 < image.channels ∧ image.channels % 2 = 0)
      (image.half.Fits ∧ image.channels < Size.limit) →
    Stops name input layers handle b image f
  /-- In its side branch. -/
  | side {side : SideLayers} : layers.Suits image → layers.side = some side →
    Convolution.RowHalts s!"{name}.branch1" handle f 0 input side.row
      ⟨b.arena, #[]⟩ →
    Stops name input layers handle b image f
  /-- In its main branch, which is bound to the second half of the image. -/
  | mainOfHalf {split : Split} {b₁ : Bench} :
    layers.Suits image → layers.side = none →
    Split.setup s!"{name}.split" input ⟨b.arena.tensors.size⟩
      ⟨b.arena.tensors.size + 1⟩
      ⟨b.arena.grow [image.half, image.half], b.events⟩ = .ok split b₁ →
    Convolution.RowHalts s!"{name}.branch2" handle f 0 split.second
      layers.main.row ⟨b₁.arena, #[]⟩ →
    Stops name input layers handle b image f
  /-- In its main branch, which is bound to the image like the side branch. -/
  | mainOfImage {side : SideLayers} {branch : SideBranch} {b₁ : Bench} :
    layers.Suits image → layers.side = some side →
    SideBranch.setup s!"{name}.branch1" input side handle b = .ok branch b₁ →
    Convolution.RowHalts s!"{name}.branch2" handle f 0 input layers.main.row
      ⟨b₁.arena, #[]⟩ →
    Stops name input layers handle b image f
  /-- At its interleave. -/
  | shuffle {path : BlockPath} {b₁ : Bench} {first second : Shape} :
    layers.Suits image →
    Block.setupPath name input image layers handle b = .ok path b₁ →
    b₁.arena.shape? path.first = some first →
    b₁.arena.shape? path.second = some second →
    f.Blames s!"{name}.shuffle"
      (first = second ∧ 0 < first.channels
        ∧ layers.outputs = first.channels + second.channels)
      ((first.withChannels layers.outputs).Fits
        ∧ first.channels + second.channels < Size.limit) →
    Stops name input layers handle b image f

namespace Block

variable {layers : BlockLayers}

/-- A path through the second half that is not bound. -/
theorem stops_of_halves (hin : b.arena.shape? input = some image)
    (hsuits : layers.Suits image) (hside : layers.side = none)
    (h : (do
      let first ← Binding.alloc image.half
      let second ← Binding.alloc image.half
      let split ← Split.setup s!"{name}.split" input first second
      let main ← MainBranch.setup s!"{name}.branch2" second layers.main handle
      pure (.keep split main) : Binding BlockPath) b = .error f b') :
    Stops name input layers handle b image f := by
  -- there is no split without room for both halves
  rcases Step.bind_eq_error_iff.1 h with h | ⟨_, _, hfirst, h⟩
  · obtain ⟨rfl, hfull⟩ := Binding.alloc_eq_error h
    exact .split hsuits hside fun hroomy => hfull hroomy.1
  obtain ⟨hfits, rfl, rfl⟩ := Binding.alloc_eq_ok_iff.1 hfirst
  rcases Step.bind_eq_error_iff.1 h with h | ⟨_, _, hsecond, h⟩
  · exact absurd hfits (Binding.alloc_eq_error h).2
  obtain ⟨-, rfl, rfl⟩ := Binding.alloc_eq_ok_iff.1 hsecond
  simp only [Arena.grow_grow, List.singleton_append, Arena.size_grow,
    List.length_singleton] at h
  have hin' : (b.arena.grow [image.half, image.half]).shape? input
      = some image :=
    Arena.shape?_grow_of_some hin
  have hfirst : (b.arena.grow [image.half, image.half]).shape?
    ⟨b.arena.tensors.size⟩
      = some image.half := Arena.shape?_grow_added (i := 0)
  have hsecond :
    (b.arena.grow [image.half, image.half]).shape? ⟨b.arena.tensors.size + 1⟩
      = some image.half := Arena.shape?_grow_added (i := 1)
  rcases Step.bind_eq_error_iff.1 h with h | ⟨split, b₁, hsplit, h⟩
  · have hne : (⟨b.arena.tensors.size⟩ : TensorId)
        ≠ ⟨b.arena.tensors.size + 1⟩ :=
      fun heq => Nat.ne_of_lt (Nat.lt_succ_self _) (congrArg TensorId.index heq)
    exact .split hsuits hside (Split.setup_blames
      (b := ⟨b.arena.grow [image.half, image.half], b.events⟩) hin' hfirst
        hsecond hne id
      (fun hroomy => hroomy.2) f b' h)
  rcases Step.bind_eq_error_iff.1 h with hmain | ⟨main, b₂, -, h⟩
  · obtain ⟨_, _, _, -, -, -, -, rfl, rfl⟩ := Split.setup_eq_ok_iff.1 hsplit
    exact .mainOfHalf hsuits hside hsplit
      (MainBranch.halts_of_setup hsecond hmain)
  · cases h

/-- A path that is not bound, behind the checks of its block that come
first. -/
theorem stops_of_setupPath (hin : b.arena.shape? input = some image)
    (hchannels : image.channels = layers.inputs) (hpos : 0 < layers.outputs)
    (heven : layers.outputs % 2 = 0)
    (h : setupPath name input image layers handle b = .error f b') :
    Stops name input layers handle b image f := by
  obtain ⟨outputs, inputs, stride, side, main⟩ := layers
  -- a stride against the side branch is blamed on the block itself
  have hown {e : Error} (he : e.path? = some name)
      (hpath : ¬((stride = 1 ∧ side = none ∧ inputs = outputs)
        ∨ (1 < stride ∧ side ≠ none))) :
      Stops name input ⟨outputs, inputs, stride, side, main⟩ handle b image
        (.error e) :=
    .own ⟨he, fun hsuits => hpath hsuits.path⟩
  match stride, side with
  | 0, _ =>
      cases h
      exact hown rfl (by simp)
  | 1, none =>
      simp only [setupPath] at h
      by_cases hwidth : inputs = outputs
      · rw [if_neg fun hne => hne hwidth] at h
        exact stops_of_halves hin
          ⟨hchannels, hpos, heven, .inl ⟨rfl, rfl, hwidth⟩⟩ rfl h
      · rw [Step.guard_of_true hwidth] at h
        cases h
        exact hown rfl (by simp [hwidth])
  | 1, some _ =>
      cases h
      exact hown rfl (by simp)
  | n + 2, none =>
      cases h
      exact hown rfl (by simp)
  | n + 2, some sideLayers =>
      have hsuits : BlockLayers.Suits ⟨outputs, inputs, n + 2, some sideLayers,
          main⟩ image :=
        ⟨hchannels, hpos, heven,
          .inr ⟨by show 1 < n + 2; omega, Option.some_ne_none _⟩⟩
      simp only [setupPath] at h
      rcases Step.bind_eq_error_iff.1 h with h | ⟨branch, b₁, hbranch, h⟩
      · exact .side hsuits rfl (SideBranch.halts_of_setup hin h)
      rcases Step.bind_eq_error_iff.1 h with h | ⟨mainBranch, b₂, -, h⟩
      · have hin' := (SideBranch.setup_computes hbranch).1.shape? hin
        exact .mainOfImage hsuits rfl hbranch (MainBranch.halts_of_setup hin' h)
      · cases h

/-- A path that is bound has the side branch that its stride asks for. -/
theorem path_of_setupPath {path : BlockPath}
    (h : setupPath name input image layers handle b = .ok path b') :
    (layers.stride = 1 ∧ layers.side = none ∧ layers.inputs = layers.outputs)
      ∨ (1 < layers.stride ∧ layers.side ≠ none) := by
  rcases setupPath_cases h with ⟨_, _, _, _, hkeep, -⟩ | ⟨side, _, _, _,
    hstride, hside, -⟩
  · exact .inl hkeep
  · exact .inr ⟨hstride, hside ▸ Option.some_ne_none side⟩

/-- A block that is not bound. -/
theorem stops_of_setup (hin : b.arena.shape? input = some image)
    (h : setup name input layers handle b = .error f b') :
    Stops name input layers handle ⟨b.arena, #[]⟩ image f := by
  obtain ⟨after, h⟩ := Binding.exists_of_balanced_eq_error h
  have hshape : Binding.shapeOf input ⟨b.arena, #[]⟩
      = .ok image ⟨b.arena, #[]⟩ :=
    Binding.shapeOf_eq_ok_iff.2 ⟨hin, rfl⟩
  rw [Step.bind_of_ok hshape] at h
  dsimp only at h
  by_cases hchannels : image.channels ≠ layers.inputs
  · rw [Step.guard_of_true hchannels] at h
    cases h
    exact .own ⟨rfl, fun hsuits => hchannels hsuits.channels_eq⟩
  rw [if_neg hchannels] at h
  by_cases hwidth : layers.outputs = 0 ∨ layers.outputs % 2 ≠ 0
  · rw [Step.guard_of_true hwidth] at h
    cases h
    refine .own ⟨rfl, fun hsuits => ?_⟩
    have hpos := hsuits.outputs_pos
    have heven := hsuits.outputs_even
    omega
  rw [if_neg hwidth] at h
  rcases Step.bind_eq_error_iff.1 h with hpath | ⟨path, b₁, hpath, h⟩
  · exact stops_of_setupPath hin (by omega) (by omega) (by omega) hpath
  have hsuits : layers.Suits image :=
    ⟨by omega, by omega, by omega, path_of_setupPath hpath⟩
  obtain ⟨-, hforks⟩ := setupPath_forks (b := ⟨b.arena, #[]⟩) hin hpath
  obtain ⟨first, hfirst⟩ := Arena.exists_shape? hforks.first_lt
  obtain ⟨second, hsecond⟩ := Arena.exists_shape? hforks.second_lt
  exact .shuffle hsuits hpath hfirst hsecond (Step.Blames.shapeOf hfirst
    (Interleave.join_blames hfirst hsecond fun _ _ => ⟨_, _, rfl⟩) f after h)

end Block

-- ================================================================ stages

/-- Layers that make no stage, with the error that says so. -/
inductive StageLayers.Misfit (number : Nat) : StageLayers → Error → Prop where
  /-- There is no block. -/
  | empty : Misfit number ⟨[]⟩ (.config s!"s{number}" .noBlocks)
  /-- The first block keeps the size. -/
  | first {first : BlockLayers} {later : List BlockLayers} :
      first.isDownsample = false →
    Misfit number ⟨first :: later⟩ (.config s!"s{number}" .firstBlockKeepsSize)
  /-- A later block does not, and none before it. -/
  | later {first stray : BlockLayers} {before after : List BlockLayers} :
    first.isDownsample = true → (∀ l ∈ before, l.isDownsample = false) →
    stray.isDownsample = true →
    Misfit number ⟨first :: (before ++ stray :: after)⟩
      (.config s!"s{number}r{before.length + 1}" .laterBlockDownsamples)

/-- All others are a block that makes the image smaller, and behind it blocks
that do not. -/
theorem StageLayers.no_misfit_iff (number : Nat) {layers : StageLayers} :
    (∀ e, ¬layers.Misfit number e) ↔ ∃ first later, layers = ⟨first :: later⟩
      ∧ first.isDownsample = true ∧ ∀ l ∈ later, l.isDownsample = false := by
  constructor
  · intro hfit
    obtain ⟨blocks⟩ := layers
    cases blocks with
    | nil => exact absurd .empty (hfit _)
    | cons first later =>
        have hfirst : first.isDownsample = true := by
          cases hkeep : first.isDownsample with
          | true => rfl
          | false => exact absurd (.first hkeep) (hfit _)
        refine ⟨first, later, rfl, hfirst, ?_⟩
        cases hfind : later.find? (·.isDownsample) with
        | none => simpa using hfind
        | some stray =>
            obtain ⟨hstray, before, after, rfl, hbefore⟩ :=
              List.find?_eq_some_iff_append.1 hfind
            exact absurd (.later hfirst (by simpa using hbefore) hstray)
              (hfit _)
  · intro hall e h
    obtain ⟨first, later, hlayers, hfirst, hlater⟩ := hall
    cases h with
    | empty => cases hlayers
    | first hkeep =>
        cases hlayers
        exact Bool.false_ne_true (hkeep.symm.trans hfirst)
    | later _ _ hstray =>
        cases hlayers
        exact Bool.false_ne_true
          ((hlater _ (List.mem_append_right _ List.mem_cons_self)).symm.trans
          hstray)

namespace Stage

/-- Where a row of blocks halts, each bound to the output of the one before
it. -/
def RowHalts (name : String) (handle : Handle) (f : Failure) :
    (index : Nat) → (source : TensorId) → List BlockLayers → Bench → Prop :=
  Halts (fun k source l => Block.setup s!"{name}r{k}" source l handle)
    Block.output
    fun k source l b => ∃ image, b.arena.shape? source = some image
      ∧ Block.Stops s!"{name}r{k}" source l handle ⟨b.arena, #[]⟩ image f

/-- Blocks in a row that are refused stop at one of them, behind those that
were bound. -/
theorem rowHalts_of_setupBlocks {layers : List BlockLayers} {index : Nat}
    {source : TensorId} (hin : b.arena.shape? source = some image)
    (h : setupBlocks name handle index source layers b = .error f b') :
    RowHalts name handle f index source layers b := by
  induction layers generalizing index source image b with
  | nil => cases h
  | cons l rest ih =>
      rcases Step.bind_eq_error_iff.1 h with h | ⟨block, b₁, hblock, h⟩
      · exact .here ⟨image, hin, Block.stops_of_setup hin h⟩
      · obtain ⟨_, _, _, hbinds⟩ := Block.exists_binds hblock
        rcases Step.bind_eq_error_iff.1 h with h | ⟨later, b₂, -, h⟩
        · exact .later hblock (ih hbinds.output_shape h)
        · cases h

/-- Stray blocks are counted from `index`. -/
theorem strayDownsample?_append {before after : List BlockLayers}
    {stray : BlockLayers} {index : Nat}
    (hbefore : ∀ l ∈ before, l.isDownsample = false)
    (hstray : stray.isDownsample = true) :
    strayDownsample? index (before ++ stray :: after)
      = some (before.length + index) := by
  induction before generalizing index with
  | nil => simp [strayDownsample?, hstray]
  | cons l rest ih =>
      obtain ⟨hl, hrest⟩ := List.forall_mem_cons.1 hbefore
      rw [List.cons_append, strayDownsample?, hl, if_neg Bool.false_ne_true,
        ih hrest, List.length_cons, Nat.add_assoc, Nat.add_comm 1 index]

variable {number : Nat} {layers : StageLayers}

/-- A list of blocks that makes no stage is refused before anything is
bound. -/
theorem setup_of_misfit {e : Error} (h : layers.Misfit number e) :
    setup number input layers handle b = .error (.error e) b := by
  have hbalanced {step : Binding Stage} (hstep : step ⟨b.arena, #[]⟩
      = .error (.error e) ⟨b.arena, #[]⟩) : Binding.balanced step b
        = .error (.error e) b := by
    simp [Binding.balanced, hstep, Bench.openClaims]
  cases h with
  | empty => exact hbalanced rfl
  | first hfirst =>
      refine hbalanced ?_
      dsimp only
      rw [Step.guard_of_true (by simp [hfirst])]
  | later hfirst hbefore hstray =>
      refine hbalanced ?_
      dsimp only
      rw [if_neg (by simp [hfirst])]
      simp only [strayDownsample?_append hbefore hstray]
      rfl

/-- Any other list is bound block by block. -/
theorem fails_of_no_misfit (hfit : ∀ e, ¬layers.Misfit number e)
    (h : setup number input layers handle b = .error f b') :
    ∃ after, setupBlocks s!"s{number}" handle 0 input layers.blocks
      ⟨b.arena, #[]⟩
      = .error f after := by
  obtain ⟨after, h⟩ := Binding.exists_of_balanced_eq_error h
  obtain ⟨first, later, rfl, hfirst, hlater⟩ :=
    (StageLayers.no_misfit_iff number).1 hfit
  dsimp only at h
  rw [if_neg (by simp [hfirst])] at h
  simp only [strayDownsample?_eq_none_iff.2 hlater] at h
  rcases Step.bind_eq_error_iff.1 h with h | ⟨head, b₁, hhead, h⟩
  · exact ⟨after, Step.bind_eq_error_iff.2 (.inl (head_name number ▸ h))⟩
  rcases Step.bind_eq_error_iff.1 h with h | ⟨tail, b₂, -, h⟩
  · exact ⟨after, Step.bind_eq_error_iff.2
      (.inr ⟨head, b₁, head_name number ▸ hhead,
      Step.bind_eq_error_iff.2 (.inl h)⟩)⟩
  · cases h

/-- A list of blocks that makes no stage is refused as such, whatever else
is wrong. Any other set-up that fails blames its first offender: of the
blocks all before one are bound, and of that block all up to the place where
it halts. -/
theorem setup_blames_first (number : Nat) (layers : StageLayers)
    (handle : Handle) :
    (∀ e, layers.Misfit number e →
        ∀ input b, setup number input layers handle b = .error (.error e) b)
      ∧ ((∀ e, ¬layers.Misfit number e) →
        ∀ input image b f b', b.arena.shape? input = some image →
          setup number input layers handle b = .error f b' →
          RowHalts s!"s{number}" handle f 0 input layers.blocks
            ⟨b.arena, #[]⟩) := by
  refine ⟨fun e he input b => setup_of_misfit he,
    fun hfit input image b f b' hin h => ?_⟩
  obtain ⟨after, h⟩ := fails_of_no_misfit hfit h
  exact rowHalts_of_setupBlocks (b := ⟨b.arena, #[]⟩) hin h

/-- Layers with three defects, two in the main branch of block 1 and one in
block 2. With one more block that makes the image smaller they are no
stage. -/
theorem setup_blames_first_of_three :
    ∃ (first second third : BlockLayers) (e : Error) (b' : Bench),
      e.path? = some "s3r1.branch2.conv1"
        ∧ setup 3 ⟨0⟩ ⟨[first, second, third]⟩ ⟨.scalar⟩
          (Bench.ofArena (Arena.empty.grow [⟨4, 4, 4⟩])) = .error (.error e) b'
        ∧ RowHalts "s3" ⟨.scalar⟩ (.error e) 0 ⟨0⟩ [first, second, third]
          (Bench.ofArena (Arena.empty.grow [⟨4, 4, 4⟩]))
        ∧ setup 3 ⟨0⟩ ⟨[first, second, third, first]⟩ ⟨.scalar⟩
          (Bench.ofArena (Arena.empty.grow [⟨4, 4, 4⟩]))
          = .error (.error (.config "s3r3" .laterBlockDownsamples))
            (Bench.ofArena (Arena.empty.grow [⟨4, 4, 4⟩])) := by
  obtain ⟨first, second, third, hrun, hfirst, hlater⟩ :
      ∃ first second third : BlockLayers,
        (match setup 3 ⟨0⟩ ⟨[first, second, third]⟩ ⟨.scalar⟩
            (Bench.ofArena (Arena.empty.grow [⟨4, 4, 4⟩])) with
          | .error (.error e) _ => decide (e.path? = some "s3r1.branch2.conv1")
          | _ => false) = true
        ∧ first.isDownsample = true ∧ ∀ l ∈ [second, third],
          l.isDownsample = false :=
    ⟨⟨4, 4, 2, some
      ⟨⟨4, 4, Window.square 3 2 1, .identity,
        Array.replicate 36 Single.one, none⟩,
        ⟨4, 2, Window.square 1 1 0, .relu, Array.replicate 8 Single.one, none⟩⟩,
      ⟨⟨4, 2, Window.square 1 1 0, .relu, Array.replicate 8 Single.one, none⟩,
        ⟨2, 2, Window.square 3 2 1, .identity,
          Array.replicate 18 Single.one, none⟩,
        ⟨2, 2, Window.square 1 1 0, .relu,
          Array.replicate 4 Single.one, none⟩⟩⟩,
      ⟨4, 4, 1, none,
        ⟨2, 2, Window.square 1 1 0, .relu, Array.replicate 4 Single.one, none⟩,
        ⟨2, 2, Window.square 3 1 1, .identity, #[Single.one], none⟩,
        ⟨7, 3, Window.square 1 1 0, .relu, #[], none⟩⟩,
      ⟨5, 4, 1, none, ⟨2, 2, Window.square 1 1 0, .relu, #[], none⟩,
        ⟨2, 2, Window.square 3 1 1, .identity, #[], none⟩,
        ⟨2, 2, Window.square 1 1 0, .relu, #[], none⟩⟩, by
          decide +kernel, rfl, by decide⟩
  obtain ⟨e, b', hpath, h⟩ : ∃ e b', e.path? = some "s3r1.branch2.conv1"
      ∧ setup 3 ⟨0⟩ ⟨[first, second, third]⟩ ⟨.scalar⟩
        (Bench.ofArena (Arena.empty.grow [⟨4, 4, 4⟩]))
          = .error (.error e) b' := by
    split at hrun
    case h_1 e b' heq => exact ⟨e, b', of_decide_eq_true hrun, heq⟩
    case h_2 => cases hrun
  have hfit := (StageLayers.no_misfit_iff 3).2 ⟨first, _, rfl, hfirst, hlater⟩
  have hmisfit : StageLayers.Misfit 3 ⟨[first, second, third, first]⟩
      (.config s!"s{3}r{[second, third].length + 1}" .laterBlockDownsamples) :=
    .later hfirst hlater hfirst
  have hstray : s!"s{3}r{[second, third].length + 1}" = "s3r3" := by
    rw [List.length_cons, List.length_singleton]
    rfl
  rw [hstray] at hmisfit
  exact ⟨first, second, third, e, b', hpath, h,
    (setup_blames_first 3 ⟨[first, second, third]⟩ ⟨.scalar⟩).2 hfit ⟨0⟩
      ⟨4, 4, 4⟩ _ _ b' rfl h,
    (setup_blames_first 3 ⟨[first, second, third, first]⟩ ⟨.scalar⟩).1 _
      hmisfit ⟨0⟩ _⟩

end Stage

end FireNet
