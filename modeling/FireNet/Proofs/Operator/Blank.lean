/-
Set-ups look at sizes only. Setting up layers without their values does on
the bench what setting up the layers does, event by event and tensor by
tensor, and returns the operators of the layers with zeros for their values;
also when it fails, it fails alike.

Each lemma is this equation for one kind of set-up. A function that is
applied to a result passes through the sequencing, and the outputs that the
next set-up is bound to are not touched by it.
-/
import FireNet.Operator.Stage
import FireNet.Proofs.Weights.Blank

set_option autoImplicit false

namespace FireNet

-- ============================================================ operators

/-- The action with zeros for all its values. -/
def Action.blank : Action → Action
  | convolution layer => convolution layer.blank
  | depthwise layer => depthwise layer.blank
  | maxPool window => maxPool window
  | meanPool => meanPool
  | fullyConnected layer => fullyConnected layer.blank

/-- The operator with zeros for all its values. -/
def Primitive.blank (q : Primitive) : Primitive :=
  { q with action := q.action.blank }

/-- The operator with zeros for all its values. -/
def SideBranch.blank (b : SideBranch) : SideBranch :=
  ⟨b.name, b.depthwise.blank, b.pointwise.blank⟩

/-- The operator with zeros for all its values. -/
def MainBranch.blank (b : MainBranch) : MainBranch :=
  ⟨b.name, b.reduce.blank, b.depthwise.blank, b.expand.blank⟩

/-- The operator with zeros for all its values. -/
def BlockPath.blank : BlockPath → BlockPath
  | downsample side main => downsample side.blank main.blank
  | keep split main => keep split main.blank

/-- The operator with zeros for all its values. -/
def Block.blank (b : Block) : Block := { b with path := b.path.blank }

/-- The operator with zeros for all its values. -/
def Stage.blank (s : Stage) : Stage :=
  ⟨s.name, s.head.blank, s.tail.map Block.blank⟩

-- what stays

theorem Primitive.output_blank {q : Primitive} : q.blank.output = q.output :=
  rfl

theorem BlockPath.first_blank {path : BlockPath} :
    path.blank.first = path.first := by
  cases path <;> rfl

theorem BlockPath.second_blank {path : BlockPath} :
    path.blank.second = path.second := by
  cases path <;> rfl

/-- The primitives on a path without values are those on the path, without
values. -/
theorem BlockPath.primitives_blank {path : BlockPath} :
    path.blank.primitives = path.primitives.map Primitive.blank := by
  cases path <;> rfl

theorem Stage.blocks_blank {s : Stage} :
    s.blank.blocks = s.blocks.map Block.blank := rfl

theorem Stage.output_blank {s : Stage} : s.blank.output = s.output := by
  obtain ⟨name, head, tail⟩ := s
  show ((tail.map Block.blank).getLastD head.blank).output
    = (tail.getLastD head).output
  rw [List.getLastD_map]
  rfl

theorem Stage.primitives_blank {s : Stage} :
    s.blank.primitives = s.primitives.map Primitive.blank := by
  unfold Stage.primitives
  rw [Stage.blocks_blank, List.flatMap_map, List.map_flatMap]
  exact congrArg (s.blocks.flatMap ·)
    (funext fun b => BlockPath.primitives_blank)

-- =============================================================== checks

theorem Layer.inputs_blank {layer : Layer} :
    layer.blank.inputs = layer.inputs := rfl

theorem Layer.outputs_blank {layer : Layer} :
    layer.blank.outputs = layer.outputs := rfl

theorem Layer.window_blank {layer : Layer} :
    layer.blank.window = layer.window := rfl

variable {op name : String} {input output : TensorId} {handle : Handle}

/-- Counts are checked on counts alone. -/
theorem Check.parameterCounts_blank {layer : Layer} {weights : Nat} :
    Check.parameterCounts op layer.blank weights
      = Check.parameterCounts op layer weights := by
  obtain ⟨inputs, outputs, window, activation, values, bias⟩ := layer
  unfold Check.parameterCounts Layer.blank
  cases bias with
  | none => simp
  | some bias => simp

theorem Action.convolution_blank (layer : Layer) :
    convolution layer.blank = (convolution layer).blank := rfl

theorem Action.depthwise_blank (layer : Layer) :
    depthwise layer.blank = (depthwise layer).blank := rfl

theorem Action.fullyConnected_blank (layer : Layer) :
    fullyConnected layer.blank = (fullyConnected layer).blank := rfl

/-- A check looks at shapes and counts, never at a value. -/
theorem Action.check_blank {action : Action} {inShape outShape : Shape} :
    action.blank.check op inShape outShape
      = action.check op inShape outShape := by
  cases action with
  | convolution layer =>
      simp only [blank, check, Check.parameterCounts_blank, Layer.inputs_blank,
        Layer.outputs_blank, Layer.window_blank]
  | depthwise layer =>
      simp only [blank, check, Check.parameterCounts_blank, Layer.inputs_blank,
        Layer.outputs_blank, Layer.window_blank]
  | maxPool window => rfl
  | meanPool => rfl
  | fullyConnected layer =>
      simp only [blank, check, Check.parameterCounts_blank, Layer.inputs_blank,
        Layer.outputs_blank]

/-- Neither does the text of an event. -/
theorem Action.summary_blank {action : Action} {inShape outShape : Shape} :
    action.blank.summary op inShape outShape
      = action.summary op inShape outShape := by
  cases action <;> rfl

-- ============================================================== set-ups

theorem Step.map_ite {σ α β : Type} {c : Prop} [Decidable c] {f : α → β}
    {x y : Step σ α} :
    f <$> (if c then x else y) = if c then f <$> x else f <$> y :=
  apply_ite (f <$> ·) c x y

theorem Step.runFrom_map {σ α β : Type} {f : α → β} {x : Step σ α} {s : σ} :
    (f <$> x).runFrom s = ((x.runFrom s).1.map f, (x.runFrom s).2) := by
  show Step.runFrom (EStateM.map f x) s = _
  unfold Step.runFrom EStateM.map
  cases x s <;> rfl

/-- What is done to the result of a balanced set-up can be done inside it. -/
theorem Binding.map_balanced {α β : Type} {step : Binding α} {f : α → β} :
    f <$> Binding.balanced step = Binding.balanced (f <$> step) := by
  funext b
  show (EStateM.map f (Binding.balanced step)) b
    = Binding.balanced (EStateM.map f step) b
  unfold Binding.balanced EStateM.map
  dsimp only
  cases step ⟨b.arena, #[]⟩ with
  | ok x after => rfl
  | error e after => rfl

/-- Bound without values is bound, and then without values. -/
theorem Primitive.setup_blank {action : Action} :
    Primitive.setup name action.blank input output handle
      = Primitive.blank <$> Primitive.setup name action input output
        handle := by
  unfold Primitive.setup
  simp only [Action.check_blank, Action.summary_blank, map_bind, map_pure]
  rfl

theorem Binding.convolve_blank {kind : Layer → Action}
    (hkind : ∀ l, kind l.blank = (kind l).blank) {layer : Layer} :
    Binding.convolve name kind layer.blank input handle
      = Primitive.blank <$> Binding.convolve name kind layer input handle := by
  unfold Binding.convolve
  simp only [hkind, Primitive.setup_blank, map_bind, Layer.window_blank,
    Layer.outputs_blank]

theorem SideBranch.setup_blank {layers : SideLayers} :
    SideBranch.setup name input (layers.map Layer.blank) handle
      = SideBranch.blank <$> SideBranch.setup name input layers handle := by
  unfold SideBranch.setup SideLayers.map
  rw [Binding.map_balanced]
  simp only [Binding.convolve_blank Action.depthwise_blank,
    Binding.convolve_blank Action.convolution_blank, map_bind,
    bind_map_left, map_pure]
  rfl

theorem MainBranch.setup_blank {layers : MainLayers} :
    MainBranch.setup name input (layers.map Layer.blank) handle
      = MainBranch.blank <$> MainBranch.setup name input layers handle := by
  unfold MainBranch.setup MainLayers.map
  rw [Binding.map_balanced]
  simp only [Binding.convolve_blank Action.depthwise_blank,
    Binding.convolve_blank Action.convolution_blank, map_bind,
    bind_map_left, map_pure]
  rfl

theorem Block.setupPath_blank {inShape : Shape} {layers : BlockLayers} :
    Block.setupPath name input inShape (layers.map Layer.blank) handle
      = BlockPath.blank <$> Block.setupPath name input inShape layers
        handle := by
  obtain ⟨outputs, inputs, stride, side, main⟩ := layers
  cases stride with
  | zero =>
      cases side with
      | none => rfl
      | some side => rfl
  | succ stride =>
      cases stride with
      | zero =>
          cases side with
          | none =>
              simp only [setupPath, BlockLayers.map, Option.map_none,
                MainBranch.setup_blank,
                Step.map_ite, map_bind, bind_map_left, map_pure]
              rfl
          | some side => rfl
      | succ stride =>
          cases side with
          | none => rfl
          | some side =>
              simp only [setupPath, BlockLayers.map, Option.map_some,
                SideBranch.setup_blank,
                MainBranch.setup_blank, map_bind, bind_map_left, map_pure]
              rfl

theorem Block.setup_blank {layers : BlockLayers} :
    Block.setup name input (layers.map Layer.blank) handle
      = Block.blank <$> Block.setup name input layers handle := by
  unfold Block.setup
  rw [Binding.map_balanced]
  simp only [Block.setupPath_blank, Step.map_ite, map_bind,
    bind_map_left, map_pure, BlockPath.first_blank, BlockPath.second_blank]
  rfl

theorem Block.output_blank {b : Block} : b.blank.output = b.output := rfl

/-- Whether a late block downsamples is told by its stride. -/
theorem Stage.strayDownsample?_blank {index : Nat} {layers : List BlockLayers} :
    strayDownsample? index (layers.map (BlockLayers.map Layer.blank))
      = strayDownsample? index layers := by
  induction layers generalizing index with
  | nil => rfl
  | cons first rest ih =>
      simp only [List.map_cons, strayDownsample?, ih]
      rfl

theorem Stage.setupBlocks_blank {index : Nat} {layers : List BlockLayers} :
    setupBlocks name handle index input
      (layers.map (BlockLayers.map Layer.blank))
      = List.map Block.blank <$> setupBlocks name handle index input
        layers := by
  induction layers generalizing index input with
  | nil => rfl
  | cons first rest ih =>
      simp only [List.map_cons, setupBlocks, Block.setup_blank, ih, map_bind,
        bind_map_left, map_pure, Block.output_blank]

theorem Stage.setup_blank {number : Nat} {layers : StageLayers} :
    Stage.setup number input (layers.map Layer.blank) handle
      = Stage.blank <$> Stage.setup number input layers handle := by
  obtain ⟨blocks⟩ := layers
  unfold Stage.setup
  rw [Binding.map_balanced]
  cases blocks with
  | nil => rfl
  | cons first rest =>
      simp only [StageLayers.map, List.map_cons, strayDownsample?_blank]
      cases strayDownsample? 1 rest with
      | some index =>
          simp only [Step.map_ite, map_bind]
          rfl
      | none =>
          simp only [Block.setup_blank, Block.output_blank, setupBlocks_blank,
            Step.map_ite, map_bind, bind_map_left, map_pure]
          rfl

end FireNet
