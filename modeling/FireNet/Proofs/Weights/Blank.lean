/-
Parameters without their values. Declaring makes zeros of the final
lengths, and loading overwrites values only; so "declared for an
architecture, then filled" reads: blank, the parameters are what the
declaration gives. Blanking keeps the architecture, every channel count,
window and activation, and the presence and length of every blob.
-/
import FireNet.Proofs.Journal
import FireNet.Weights.Parameters

set_option autoImplicit false

namespace FireNet

/-- The layer with zeros for all its values. -/
def Layer.blank (l : Layer) : Layer :=
  { l with
    weights := Array.replicate l.weights.size Single.zero
    bias := l.bias.map fun values => Array.replicate values.size Single.zero }

/-- A function of layers, of all layers of a branch. -/
def SideLayers.map (f : Layer → Layer) (s : SideLayers) : SideLayers :=
  ⟨f s.depthwise, f s.pointwise⟩

/-- A function of layers, of all layers of a branch. -/
def MainLayers.map (f : Layer → Layer) (m : MainLayers) : MainLayers :=
  ⟨f m.reduce, f m.depthwise, f m.expand⟩

/-- A function of layers, of all layers of a block. -/
def BlockLayers.map (f : Layer → Layer) (b : BlockLayers) : BlockLayers :=
  { b with side := b.side.map (SideLayers.map f), main := b.main.map f }

/-- A function of layers, of all layers of a stage. -/
def StageLayers.map (f : Layer → Layer) (s : StageLayers) : StageLayers :=
  ⟨s.blocks.map (BlockLayers.map f)⟩

/-- A function of layers, of all layers of a network. -/
def Parameters.map (f : Layer → Layer) (p : Parameters) : Parameters :=
  { p with
    stem := f p.stem
    head := f p.head
    classifier := f p.classifier
    stages := p.stages.map (StageLayers.map f) }

/-- The parameters with zeros for all their values. -/
def Parameters.blank (p : Parameters) : Parameters := p.map Layer.blank

-- ============================================================ refilling

/-- The values of a layer, weights first. -/
def Layer.values (l : Layer) : List (Array Single) := l.weights :: l.bias.toList

/-- The values of some addressed layers. -/
def layerValues (layers : List (LayerAddress × Layer)) : List (Array Single) :=
  layers.flatMap fun entry => entry.2.values

theorem layerValues_cons {entry : LayerAddress × Layer}
    {rest : List (LayerAddress × Layer)} :
    layerValues (entry :: rest) = entry.2.values ++ layerValues rest :=
  List.flatMap_cons

/-- Values of two listings come one behind the other. -/
theorem layerValues_append {first second : List (LayerAddress × Layer)} :
    layerValues (first ++ second) = layerValues first ++ layerValues second :=
  List.flatMap_append

/-- Puts the next values of a list into a layer, as many as it has. -/
def Layer.refill (l : Layer) :
    StateM (List (Array Single)) Layer := fun values =>
  match l.bias, values with
  | none, weights :: rest => ({ l with weights := weights }, rest)
  | some _, weights :: bias :: rest =>
    ({ l with weights := weights, bias := some bias }, rest)
  | _, rest => (l, rest)

-- Refilling a blank with the values it was blanked of, and any more, gives
-- the original and leaves the others. So it goes on every level.

variable {rest : List (Array Single)}

/-- A blank layer takes its own values back. -/
theorem Layer.refill_blank {l : Layer} :
    l.blank.refill (l.values ++ rest) = (l, rest) := by
  obtain ⟨inputs, outputs, window, activation, weights, bias⟩ := l
  cases bias with
  | none => rfl
  | some bias => rfl

theorem SideLayers.refill_blank {s : SideLayers} :
    (s.map Layer.blank).traverse (fun _ l => l.refill)
        (s.depthwise.values ++ (s.pointwise.values ++ rest))
      = (s, rest) := by
  rw [SideLayers.traverse, SideLayers.map, run_bind Layer.refill_blank,
    run_bind Layer.refill_blank]
  rfl

theorem MainLayers.refill_blank {b : MainLayers} :
    (b.map Layer.blank).traverse (fun _ l => l.refill)
        (b.reduce.values ++ (b.depthwise.values ++ (b.expand.values ++ rest)))
      = (b, rest) := by
  rw [MainLayers.traverse, MainLayers.map, run_bind Layer.refill_blank,
    run_bind Layer.refill_blank, run_bind Layer.refill_blank]
  rfl

theorem BlockLayers.refill_blank {stage repetition : Nat} {b : BlockLayers} :
    (b.map Layer.blank).traverse (fun _ l => l.refill) stage repetition
        (layerValues (b.addressed stage repetition) ++ rest)
      = (b, rest) := by
  obtain ⟨outputs, inputs, stride, side, main⟩ := b
  unfold BlockLayers.traverse
  cases side with
  | none =>
      simp only [BlockLayers.map, BlockLayers.addressed, layerValues,
        Option.map_none, List.nil_append, List.flatMap_cons, List.flatMap_nil,
        List.append_assoc, pure_bind]
      rw [run_bind MainLayers.refill_blank]
      rfl
  | some s =>
      simp only [BlockLayers.map, BlockLayers.addressed, layerValues,
        Option.map_some, List.cons_append, List.nil_append, List.flatMap_cons,
        List.flatMap_nil, List.append_assoc, pure_bind]
      rw [run_bind SideLayers.refill_blank, run_bind MainLayers.refill_blank]
      rfl

theorem BlockLayers.refillFrom_blank {stage repetition : Nat}
    {blocks : List BlockLayers} :
    BlockLayers.traverseFrom (fun _ l => l.refill) stage repetition
        (blocks.map (BlockLayers.map Layer.blank))
        (layerValues (BlockLayers.addressedFrom stage repetition blocks)
          ++ rest)
      = (blocks, rest) := by
  induction blocks generalizing repetition with
  | nil => rfl
  | cons b later ih =>
      rw [BlockLayers.addressedFrom, layerValues_append, List.append_assoc,
        List.map_cons, BlockLayers.traverseFrom,
        run_bind BlockLayers.refill_blank, run_bind ih]
      rfl

theorem StageLayers.refillFrom_blank {stage : Nat} {stages : List StageLayers} :
    StageLayers.traverseFrom (fun _ l => l.refill) stage
        (stages.map (StageLayers.map Layer.blank))
        (layerValues (StageLayers.addressedFrom stage stages) ++ rest)
      = (stages, rest) := by
  induction stages generalizing stage with
  | nil => rfl
  | cons s later ih =>
      rw [StageLayers.addressedFrom, layerValues_append, List.append_assoc,
        List.map_cons,
        StageLayers.traverseFrom, StageLayers.traverse, bind_assoc]
      simp only [pure_bind]
      rw [StageLayers.map, run_bind BlockLayers.refillFrom_blank, run_bind ih]
      rfl

/-- So do parameters, which are their blank and their values. -/
theorem Parameters.refill_blank (p : Parameters) (rest : List (Array Single)) :
    p.blank.traverse (fun _ l => l.refill) (layerValues p.layers ++ rest)
      = (p, rest) := by
  simp only [Parameters.layers, layerValues_cons, List.append_assoc,
    Parameters.traverse, Parameters.blank, Parameters.map]
  rw [run_bind Layer.refill_blank, run_bind Layer.refill_blank,
    run_bind Layer.refill_blank, run_bind StageLayers.refillFrom_blank]
  rfl

/-- The values of the blobs are those of the layers, in order. -/
theorem Parameters.values_allBlobs {p : Parameters} :
    p.allBlobs.map Prod.snd = layerValues p.layers := by
  have hblobs : ∀ entry : LayerAddress × Layer,
      (Parameters.blobs entry.1 entry.2).map Prod.snd = entry.2.values := by
    intro entry
    obtain ⟨address, l⟩ := entry
    unfold Parameters.blobs Layer.values
    cases l.bias with
    | none => rfl
    | some bias => rfl
  rw [Parameters.allBlobs, List.map_flatMap, layerValues]
  exact congrArg (p.layers.flatMap ·) (funext hblobs)

/-- The blank and the values together are the parameters. -/
theorem Parameters.ext_blank {p q : Parameters} (hblank : p.blank = q.blank)
    (hvalues : p.allBlobs.map Prod.snd = q.allBlobs.map Prod.snd) : p = q := by
  rw [Parameters.values_allBlobs, Parameters.values_allBlobs] at hvalues
  have hp := p.refill_blank []
  rw [hblank, hvalues, q.refill_blank] at hp
  injection hp with hpq
  exact hpq.symm

end FireNet
