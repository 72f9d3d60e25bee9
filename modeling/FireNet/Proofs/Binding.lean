/-
Set-ups, step by step. Each lemma says when a set-up succeeds, what it
returns, and which bench it leaves: the arena grown by what was allocated,
and the events in order. Set-ups never write a tensor that is there.

The steps that every set-up is made of come first: allocate, look a shape
up, report. The set-ups of single operators are told as equivalences, so
that one lemma both takes a set-up apart and puts one together. A block is
told by what it binds (`Block.Binds`) and its path by the two cases that
the stride leaves; a stage is a first block and a row of later ones, or one
row from the start (`Stage.setup_row`), whichever an induction asks for.

What later proofs want of a set-up is mostly what a pass will find: sound
tensors of shapes that passed the check, on every arena that covers the
bench (`Primitive.setup_finds`, `Primitive.pass_of_setup`).
-/
import FireNet.Operator.Stage
import FireNet.Proofs.Operator.Channels
import FireNet.Proofs.Operator.Primitive

set_option autoImplicit false

namespace FireNet

namespace Binding

variable {α : Type} {b b' : Bench} {id : TensorId} {s : Shape}

@[simp] theorem onArena_eq_ok_iff {step : Step Arena α} {x : α} :
    onArena step b = .ok x b' ↔
      ∃ arena, step b.arena = .ok x arena ∧ b' = { b with arena := arena } := by
  unfold onArena
  cases step b.arena with
  | error e arena => simp
  | ok y arena =>
      constructor
      · intro h
        cases h
        exact ⟨arena, rfl, rfl⟩
      · intro hall
        obtain ⟨arena', heq, rfl⟩ := hall
        cases heq
        rfl

/-- An allocation gives the next id, for a shape that fits. -/
@[simp] theorem alloc_eq_ok_iff :
    alloc s b = .ok id b' ↔
      s.Fits ∧ id = ⟨b.arena.tensors.size⟩
        ∧ b' = { b with arena := b.arena.grow [s] } := by
  simp only [alloc, onArena_eq_ok_iff, Arena.alloc_eq_ok_iff]
  constructor
  · intro hall
    obtain ⟨_, ⟨hfits, rfl, rfl⟩, rfl⟩ := hall
    exact ⟨hfits, rfl, rfl⟩
  · intro hall
    obtain ⟨hfits, rfl, rfl⟩ := hall
    exact ⟨_, ⟨hfits, rfl, rfl⟩, rfl⟩

@[simp] theorem shapeOf_eq_ok_iff :
    shapeOf id b = .ok s b' ↔ b.arena.shape? id = some s ∧ b = b' := by
  simp only [shapeOf, Step.bind_eq_ok_iff, Step.get_eq_ok_iff,
    Step.ofOption_eq_ok_iff]
  constructor
  · intro hall
    obtain ⟨_, _, ⟨rfl, rfl⟩, h, rfl⟩ := hall
    exact ⟨h, rfl⟩
  · intro hall
    obtain ⟨h, rfl⟩ := hall
    exact ⟨b, b, ⟨rfl, rfl⟩, h, rfl⟩

@[simp] theorem emit_eq_ok_iff {e : Event} {u : Unit} :
    emit e b = .ok u b' ↔ b' = { b with events := b.events.push e } := by
  show EStateM.Result.ok _ _ = _ ↔ _
  constructor
  · intro h
    cases h
    rfl
  · intro heq
    obtain rfl := heq
    rfl

@[simp] theorem note_eq_ok_iff {level : Level} {text : String} {u : Unit} :
    note level text b = .ok u b' ↔
      b' = { b with events := b.events.push (.note ⟨level, text⟩) } :=
  emit_eq_ok_iff

/-- A balanced set-up that succeeds is the set-up itself. -/
theorem balanced_eq_ok_iff {step : Binding α} {x : α} :
    balanced step b = .ok x b' ↔
      ∃ after, step ⟨b.arena, #[]⟩ = .ok x after
        ∧ b' = ⟨after.arena, b.events ++ after.events⟩ := by
  unfold balanced
  cases step ⟨b.arena, #[]⟩ with
  | error e after => simp
  | ok y after =>
      constructor
      · intro h
        cases h
        exact ⟨after, rfl, rfl⟩
      · intro hall
        obtain ⟨_, heq, rfl⟩ := hall
        cases heq
        rfl

/-- One that fails fails as the set-up itself. -/
theorem exists_of_balanced_eq_error {step : Binding α} {f : Failure}
    (h : balanced step b = .error f b') :
    ∃ after, step ⟨b.arena, #[]⟩ = .error f after := by
  unfold balanced at h
  cases hstep : step ⟨b.arena, #[]⟩ with
  | ok x after =>
      rw [hstep] at h
      cases h
  | error e after =>
      rw [hstep] at h
      cases h
      exact ⟨after, rfl⟩

end Binding

-- =========================================================== primitives

variable {b b' : Bench} {name : String} {handle : Handle}

/-- The bench once a primitive is bound: its report is there, and its claim. -/
def Bench.bound (b : Bench) (name : String) (action : Action)
    (inShape outShape : Shape) : Bench :=
  ⟨b.arena, (b.events.push
    (.note ⟨.debug, action.summary name inShape outShape⟩)).push .claim⟩

/-- A primitive is bound between tensors that are there, when its check on
their shapes holds. -/
theorem Primitive.setup_eq_ok_iff {action : Action} {input output : TensorId}
    {p : Primitive} :
    Primitive.setup name action input output handle b = .ok p b' ↔
      ∃ inShape outShape, b.arena.shape? input = some inShape
        ∧ b.arena.shape? output = some outShape
        ∧ action.check name inShape outShape = .ok ()
        ∧ p = ⟨name, action, input, output, inShape, outShape, handle⟩
        ∧ b' = b.bound name action inShape outShape := by
  simp only [setup, Step.bind_eq_ok_iff, Binding.shapeOf_eq_ok_iff,
    Step.ofOutcome_eq_ok_iff, Binding.note_eq_ok_iff, Binding.emit_eq_ok_iff,
    Step.pure_eq_ok_iff]
  constructor
  · intro hall
    obtain ⟨inShape, _, ⟨hin, rfl⟩, outShape, _, ⟨hout, rfl⟩, _, _,
      ⟨hcheck, rfl⟩, _, _, rfl, _, _, rfl, rfl, rfl⟩ := hall
    exact ⟨inShape, outShape, hin, hout, hcheck, rfl, rfl⟩
  · intro hall
    obtain ⟨inShape, outShape, hin, hout, hcheck, rfl, rfl⟩ := hall
    exact ⟨inShape, b, ⟨hin, rfl⟩, outShape, b, ⟨hout, rfl⟩, (), b,
      ⟨hcheck, rfl⟩, (), _, rfl, (), _, rfl, rfl, rfl⟩

/-- Wherever there are the tensors of its set-up, a bound primitive finds
them, and they pass its check. -/
theorem Primitive.setup_finds {action : Action} {input output : TensorId}
    {p : Primitive} {a : Arena}
    (h : Primitive.setup name action input output handle b = .ok p b')
    (ha : a.Covers b.arena) :
    ∃ x old : Tensor Single,
      p = ⟨name, action, input, output, x.shape, old.shape, handle⟩
      ∧ action.check name x.shape old.shape = .ok ()
      ∧ (a.tensor? input = some x ∧ x.Sound) ∧ a.tensor? output = some old
      ∧ old.Sound := by
  obtain ⟨inShape, outShape, hin, hout, hcheck, rfl, rfl⟩ := setup_eq_ok_iff.1 h
  obtain ⟨x, hx, rfl, hxs⟩ := ha _ _ hin
  obtain ⟨old, hold, rfl, holds⟩ := ha _ _ hout
  exact ⟨x, old, rfl, hcheck, ⟨hx, hxs⟩, hold, holds⟩

/-- Its binding adds no tensor. -/
theorem Primitive.arena_of_setup {action : Action} {input output : TensorId}
    {p : Primitive}
    (h : Primitive.setup name action input output handle b = .ok p b') :
    b'.arena = b.arena := by
  obtain ⟨_, _, -, -, -, -, rfl⟩ := setup_eq_ok_iff.1 h
  rfl

/-- A pass of a primitive that was bound between two tensors, on any contents
of them: its output becomes what the action gives of its input. -/
theorem Primitive.pass_of_setup {action : Action} {input output : TensorId}
    {p : Primitive} {a : Arena} (hsound : b.arena.Sound)
    (h : Primitive.setup name action input output handle b = .ok p b')
    (hne : input ≠ output) (ha : b'.arena.Alike a) :
    ∃ x y : Tensor Single,
      a.tensor? input = some x ∧ x.Sound ∧ x.shape = p.inShape
      ∧ action.check name p.inShape p.outShape = .ok ()
      ∧ action.over? handle.backend p.outShape x = some y
      ∧ y.shape = p.outShape ∧ y.Sound
      ∧ p.forward a = .ok () (a.put output y) := by
  rw [arena_of_setup h] at ha
  obtain ⟨x, old, rfl, hcheck, ⟨hx, hxs⟩, hold, holds⟩ :=
    setup_finds h (hsound.covers.of_alike ha)
  obtain ⟨y, hover, hshape, hys, hrun⟩ :=
    forward_eq_ok (p :=
      ⟨name, action, input, output, x.shape, old.shape, handle⟩)
      hcheck hx hxs rfl hold holds rfl hne
  exact ⟨x, y, hx, hxs, rfl, hcheck, hover, hshape, hys, hrun⟩

/-- A convolution is bound when its window has places, its output fits, and
its check holds. -/
theorem Binding.convolve_eq_ok_iff {kind : Layer → Action} {layer : Layer}
    {input : TensorId} {p : Primitive} :
    Binding.convolve name kind layer input handle b = .ok p b' ↔
      ∃ image outShape, b.arena.shape? input = some image
        ∧ layer.window.Places image.height image.width
          (outShape.height, outShape.width)
        ∧ outShape.channels = layer.outputs ∧ outShape.Fits
        ∧ (kind layer).check name image outShape = .ok ()
        ∧ p = ⟨name, kind layer, input, ⟨b.arena.tensors.size⟩, image,
          outShape, handle⟩
        ∧ b' = { b with arena := b.arena.grow [outShape] }.bound name
          (kind layer) image
            outShape := by
  have hnew (s : Shape) :
      (b.arena.grow [s]).shape? ⟨b.arena.tensors.size⟩ = some s :=
    Arena.shape?_grow_added (i := 0)
  simp only [convolve, Step.bind_eq_ok_iff, shapeOf_eq_ok_iff,
    Step.ofOutcome_eq_ok_iff,
    Check.windowOutput_eq_ok_iff, alloc_eq_ok_iff, Primitive.setup_eq_ok_iff]
  constructor
  · intro hall
    obtain ⟨image, _, ⟨hin, rfl⟩, ⟨height, width⟩, _, ⟨hplaces, rfl⟩, _, _,
      ⟨hfits, rfl, rfl⟩,
      inShape, outShape, hin', hout, hcheck, rfl, rfl⟩ := hall
    rw [hnew] at hout
    rw [Arena.shape?_grow_of_some hin] at hin'
    cases hout
    cases hin'
    exact ⟨image, ⟨height, width, layer.outputs⟩, hin, hplaces, rfl, hfits,
      hcheck, rfl, rfl⟩
  · intro hall
    obtain ⟨image, ⟨height, width, channels⟩, hin, hplaces, hchannels, hfits,
      hcheck, rfl, rfl⟩ := hall
    cases hchannels
    exact ⟨image, b, ⟨hin, rfl⟩, (height, width), b, ⟨hplaces, rfl⟩, _, _,
      ⟨hfits, rfl, rfl⟩,
      image, _, Arena.shape?_grow_of_some hin, hnew _, hcheck, rfl, rfl⟩

-- ============================================================= channels

/-- A split is bound when its check on the three shapes holds. -/
theorem Split.setup_eq_ok_iff {input first second : TensorId} {s : Split} :
    Split.setup name input first second b = .ok s b' ↔
      ∃ inShape halfShape otherShape, b.arena.shape? input = some inShape
        ∧ b.arena.shape? first = some halfShape
        ∧ b.arena.shape? second = some otherShape
        ∧ Split.check name inShape halfShape otherShape (first == second)
          = .ok ()
        ∧ s = ⟨name, input, first, second, inShape, halfShape⟩
        ∧ b' = { b with events := b.events.push (.note ⟨.debug,
            s!"{name}: channel split {inShape} -> 2 x {halfShape}"⟩) } := by
  simp only [setup, Step.bind_eq_ok_iff, Binding.shapeOf_eq_ok_iff,
    Step.ofOutcome_eq_ok_iff, Binding.note_eq_ok_iff, Step.pure_eq_ok_iff]
  constructor
  · intro hall
    obtain ⟨inShape, _, ⟨hin, rfl⟩, half, _, ⟨hhalf, rfl⟩, other, _,
      ⟨hother, rfl⟩, _, _, ⟨hcheck, rfl⟩, _, _, rfl, rfl, rfl⟩ := hall
    exact ⟨inShape, half, other, hin, hhalf, hother, hcheck, rfl, rfl⟩
  · intro hall
    obtain ⟨inShape, half, other, hin, hhalf, hother, hcheck, rfl, rfl⟩ := hall
    exact ⟨inShape, b, ⟨hin, rfl⟩, half, b, ⟨hhalf, rfl⟩, other, b,
      ⟨hother, rfl⟩, (), b, ⟨hcheck, rfl⟩, (), _, rfl, rfl, rfl⟩

/-- An interleave is bound when its check on the three shapes holds. -/
theorem Interleave.setup_eq_ok_iff {first second output : TensorId}
    {s : Interleave} :
    Interleave.setup name first second output b = .ok s b' ↔
      ∃ halfShape otherShape outShape, b.arena.shape? first = some halfShape
        ∧ b.arena.shape? second = some otherShape
        ∧ b.arena.shape? output = some outShape
        ∧ Interleave.check name halfShape otherShape outShape
          (output == first || output == second) = .ok ()
        ∧ s = ⟨name, first, second, output, halfShape, outShape⟩
        ∧ b' = { b with
          events := b.events.push (.note ⟨.debug,
            s!"{name}: channel interleave 2 x {halfShape} -> {outShape}"⟩)
          } := by
  simp only [setup, Step.bind_eq_ok_iff, Binding.shapeOf_eq_ok_iff,
    Step.ofOutcome_eq_ok_iff, Binding.note_eq_ok_iff, Step.pure_eq_ok_iff]
  constructor
  · intro hall
    obtain ⟨half, _, ⟨hhalf, rfl⟩, other, _, ⟨hother, rfl⟩, outShape, _,
      ⟨hout, rfl⟩, _, _, ⟨hcheck, rfl⟩, _, _, rfl, rfl, rfl⟩ := hall
    exact ⟨half, other, outShape, hhalf, hother, hout, hcheck, rfl, rfl⟩
  · intro hall
    obtain ⟨half, other, outShape, hhalf, hother, hout, hcheck, rfl, rfl⟩ :=
      hall
    exact ⟨half, b, ⟨hhalf, rfl⟩, other, b, ⟨hother, rfl⟩, outShape, b,
      ⟨hout, rfl⟩, (), b, ⟨hcheck, rfl⟩, (), _, rfl, rfl, rfl⟩

-- =============================================================== blocks

/-- A path that was bound is one of two. With stride 1 there is no side
branch, and the main branch is bound to the second of two new halves of the
input; with a larger stride both branches are bound to the input. -/
theorem Block.setupPath_cases {input : TensorId} {image : Shape}
    {layers : BlockLayers} {path : BlockPath}
    (h : setupPath name input image layers handle b = .ok path b') :
    (∃ half split main b₁,
        (layers.stride = 1 ∧ layers.side = none
          ∧ layers.inputs = layers.outputs)
        ∧ half = image.withChannels (image.channels / 2) ∧ half.Fits
        ∧ Split.setup s!"{name}.split" input ⟨b.arena.tensors.size⟩
          ⟨b.arena.tensors.size + 1⟩ ⟨b.arena.grow [half, half], b.events⟩
            = .ok split b₁
        ∧ MainBranch.setup s!"{name}.branch2" ⟨b.arena.tensors.size + 1⟩
          layers.main handle b₁
          = .ok main b'
        ∧ path = .keep split main)
      ∨ ∃ sideLayers side main b₁,
        1 < layers.stride ∧ layers.side = some sideLayers
        ∧ SideBranch.setup s!"{name}.branch1" input sideLayers handle b
          = .ok side b₁
        ∧ MainBranch.setup s!"{name}.branch2" input layers.main handle b₁
          = .ok main b'
        ∧ path = .downsample side main := by
  obtain ⟨outputs, inputs, stride, side, main⟩ := layers
  match stride, side with
  | 0, _ => simp [setupPath] at h
  | 1, none =>
      simp only [setupPath, Step.guard_eq_ok_iff, Step.bind_eq_ok_iff,
        Binding.alloc_eq_ok_iff, Step.pure_eq_ok_iff] at h
      obtain ⟨hsame, _, _, ⟨hfits, rfl, rfl⟩, _, _, ⟨-, rfl, rfl⟩, split, b₁,
        hsplit, main', b₂, hmain, rfl, rfl⟩ := h
      simp only [Arena.grow_grow, List.singleton_append, Arena.size_grow,
        List.length_singleton] at hsplit hmain
      exact .inl ⟨_, split, main', b₁, ⟨rfl, rfl, Decidable.not_not.1 hsame⟩,
        rfl, hfits, hsplit, hmain, rfl⟩
  | 1, some _ => simp [setupPath] at h
  | n + 2, none => simp [setupPath] at h
  | n + 2, some sideLayers =>
      simp only [setupPath, Step.bind_eq_ok_iff, Step.pure_eq_ok_iff] at h
      obtain ⟨side', b₁, hside, main', b₂, hmain, rfl, rfl⟩ := h
      exact .inr ⟨sideLayers, side', main',
        b₁, by show 1 < n + 2; omega, rfl, hside, hmain, rfl⟩

/-- How a block was bound: `image` is the shape of its input and `half` that
of the two tensors it merges, which are there on the bench `b₁`. -/
structure Block.Binds (name : String) (input : TensorId) (layers : BlockLayers)
    (handle : Handle) (b b₁ b' : Bench) (image half : Shape) (block : Block) :
    Prop where
  input_shape : b.arena.shape? input = some image
  inputs_eq : image.channels = layers.inputs
  half_pos : 0 < half.channels
  outputs_eq : layers.outputs = 2 * half.channels
  path : setupPath name input image layers handle ⟨b.arena, #[]⟩
    = .ok block.path b₁
  first_shape : b₁.arena.shape? block.path.first = some half
  second_shape : b'.arena.shape? block.path.second = some half
  fits : (half.withChannels layers.outputs).Fits
  arena_eq : b'.arena = b₁.arena.grow [half.withChannels layers.outputs]
  shuffle_eq : block.shuffle = ⟨s!"{name}.shuffle", block.path.first,
    block.path.second, ⟨b₁.arena.tensors.size⟩, half,
    half.withChannels layers.outputs⟩
  check : Interleave.check s!"{name}.shuffle" half half
    (half.withChannels layers.outputs)
    (block.output == block.path.first || block.output == block.path.second)
      = .ok ()

/-- A block that was bound has bound its parts. -/
theorem Block.exists_binds {input : TensorId} {layers : BlockLayers}
    {block : Block}
    (h : Block.setup name input layers handle b = .ok block b') :
    ∃ b₁ image half,
      Binds name input layers handle b b₁ b' image half block := by
  obtain ⟨after, hafter, rfl⟩ := Binding.balanced_eq_ok_iff.1 h
  simp only [Step.bind_eq_ok_iff, Step.guard_eq_ok_iff, Step.pure_eq_ok_iff,
    Binding.shapeOf_eq_ok_iff, Binding.alloc_eq_ok_iff, Binding.note_eq_ok_iff,
    Interleave.setup_eq_ok_iff] at hafter
  obtain ⟨image, _, ⟨himage, rfl⟩, hinputs, hwidth, path, b₁, hpath, half, _,
    ⟨hhalf, rfl⟩, _, _,
    ⟨hfits, rfl, rfl⟩, shuffle, _,
    ⟨first, second, outShape, hfirst, hsecond, hout, hcheck, rfl,
    rfl⟩, _, _, rfl, rfl, rfl⟩ := hafter
  -- the shapes that the interleave looks up are those at hand
  obtain rfl : half = first :=
    Option.some.inj ((Arena.shape?_grow_of_some hhalf).symm.trans hfirst)
  obtain rfl : half.withChannels layers.outputs = outShape :=
    Option.some.inj ((Arena.shape?_grow_added (i := 0)).symm.trans hout)
  obtain ⟨rfl, hpos, -, hsum, -⟩ := Interleave.check_eq_ok_iff.1 hcheck
  have houtputs : layers.outputs = half.channels + half.channels :=
    congrArg Shape.channels hsum
  exact ⟨b₁, image, half, himage, Decidable.not_not.1 hinputs, hpos,
    houtputs.trans (Nat.two_mul _).symm, hpath, hhalf, hsecond, hfits, rfl,
    rfl, hcheck⟩

-- =============================================================== stages

/-- No later block makes the image smaller exactly if none is a stray. -/
theorem Stage.strayDownsample?_eq_none_iff {layers : List BlockLayers}
    {index : Nat} :
    strayDownsample? index layers = none ↔ ∀ l ∈ layers,
      l.isDownsample = false := by
  induction layers generalizing index with
  | nil => simp [strayDownsample?]
  | cons l rest ih =>
      rw [strayDownsample?, List.forall_mem_cons]
      cases hl : l.isDownsample with
      | true => simp
      | false => simp [ih]

/-- A stage that was bound is one block that makes the image smaller and, in
a row behind it, blocks that do not. -/
theorem Stage.setup_cases {number : Nat} {input : TensorId}
    {layers : StageLayers} {stage : Stage}
    (h : Stage.setup number input layers handle b = .ok stage b') :
    ∃ first later b₁ b₂, layers.blocks = first :: later
      ∧ first.isDownsample = true ∧ (∀ l ∈ later, l.isDownsample = false)
      ∧ Block.setup (s!"s{number}" ++ "r0") input first handle ⟨b.arena, #[]⟩
        = .ok stage.head b₁
      ∧ setupBlocks s!"s{number}" handle 1 stage.head.output later b₁
        = .ok stage.tail b₂
      ∧ b'.arena = b₂.arena := by
  obtain ⟨after, hafter, rfl⟩ := Binding.balanced_eq_ok_iff.1 h
  obtain ⟨blocks⟩ := layers
  cases blocks with
  | nil => simp at hafter
  | cons first later =>
      simp only [Step.guard_eq_ok_iff] at hafter
      obtain ⟨hfirst, hafter⟩ := hafter
      -- a stray downsampling block is refused
      cases hstray : strayDownsample? 1 later with
      | some index => simp [hstray] at hafter
      | none =>
          simp only [hstray, Step.bind_eq_ok_iff, Step.pure_eq_ok_iff] at hafter
          obtain ⟨head, b₁, hhead, tail, b₂, htail, rfl, rfl⟩ := hafter
          exact ⟨first, later, b₁, b₂, rfl, by simpa using hfirst,
            strayDownsample?_eq_none_iff.1 hstray, hhead, htail, rfl⟩

/-- The first block is numbered like the later ones. -/
theorem Stage.head_name (number : Nat) :
    s!"s{number}" ++ "r0" = s!"s{number}r{0}" := by
  simp only [toString, String.append_assoc]
  rfl

/-- Seen as one row, the blocks of a stage are bound from block 0 on. -/
theorem Stage.setup_row {number : Nat} {input : TensorId} {layers : StageLayers}
    {stage : Stage}
    (h : Stage.setup number input layers handle b = .ok stage b') :
    ∃ after, setupBlocks s!"s{number}" handle 0 input layers.blocks
      ⟨b.arena, #[]⟩
        = .ok stage.blocks after
      ∧ b'.arena = after.arena := by
  obtain ⟨first, later, b₁, b₂, hblocks, -, -, hhead, htail, harena⟩ :=
    setup_cases h
  rw [head_name] at hhead
  rw [hblocks]
  exact ⟨b₂, Step.bind_eq_ok_iff.2
    ⟨_, b₁, hhead, Step.bind_eq_ok_iff.2 ⟨_, b₂, htail, rfl⟩⟩,
    harena⟩

end FireNet
