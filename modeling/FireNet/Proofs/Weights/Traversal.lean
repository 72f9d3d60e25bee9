/-
The two ways through the layers agree. Listing what a traversal returns is
the same, in every lawful monad, as visiting the listed layers one after
another: the same addresses, the same order, the same effects. So a claim
about what a traversal does in which order is a claim about one list.

Each lemma here is this equation for one level of the structure, and the
proofs follow the recursion of `traverse`.
-/
import FireNet.Proofs.Weights.Blank

set_option autoImplicit false

namespace FireNet

variable {m : Type → Type} [Monad m] [LawfulMonad m]

/-- One visit of a listed layer, which keeps its address. -/
def visitListed (visit : LayerAddress → Layer → m Layer)
    (entry : LayerAddress × Layer) : m (LayerAddress × Layer) := do
  let layer ← visit entry.1 entry.2
  pure (entry.1, layer)

variable {visit : LayerAddress → Layer → m Layer}

/-- A block is traversed layer by layer, in the order of its addresses. -/
theorem BlockLayers.addressed_traverse {stage repetition : Nat}
    {b : BlockLayers} :
    (do
      let b ← b.traverse visit stage repetition
      pure (b.addressed stage repetition))
      = (b.addressed stage repetition).mapM (visitListed visit) := by
  obtain ⟨outputs, inputs, stride, side, main⟩ := b
  cases side with
  | none =>
      simp [BlockLayers.traverse, MainLayers.traverse, BlockLayers.addressed,
        visitListed]
  | some s =>
      simp [BlockLayers.traverse, SideLayers.traverse, MainLayers.traverse,
        BlockLayers.addressed, visitListed]

theorem BlockLayers.addressedFrom_traverseFrom {stage repetition : Nat}
    {blocks : List BlockLayers} :
    (do
      let blocks ← BlockLayers.traverseFrom visit stage repetition blocks
      pure (BlockLayers.addressedFrom stage repetition blocks))
      = (BlockLayers.addressedFrom stage repetition blocks).mapM
        (visitListed visit) := by
  induction blocks generalizing repetition with
  | nil => simp [BlockLayers.traverseFrom, BlockLayers.addressedFrom]
  | cons b rest ih =>
      rw [BlockLayers.addressedFrom,
        List.mapM_append, ← BlockLayers.addressed_traverse, ← ih]
      simp [BlockLayers.traverseFrom, BlockLayers.addressedFrom]

theorem StageLayers.addressedFrom_traverseFrom {stage : Nat}
    {stages : List StageLayers} :
    (do
      let stages ← StageLayers.traverseFrom visit stage stages
      pure (StageLayers.addressedFrom stage stages))
      = (StageLayers.addressedFrom stage stages).mapM (visitListed visit) := by
  induction stages generalizing stage with
  | nil => simp [StageLayers.traverseFrom, StageLayers.addressedFrom]
  | cons s rest ih =>
      rw [StageLayers.addressedFrom, List.mapM_append,
        ← BlockLayers.addressedFrom_traverseFrom, ← ih]
      simp [StageLayers.traverseFrom, StageLayers.traverse,
        StageLayers.addressedFrom]

/-- Traversing the parameters visits the listed layers, in load order. -/
theorem Parameters.layers_traverse {p : Parameters} :
    (do
      let p ← p.traverse visit
      pure p.layers)
      = p.layers.mapM (visitListed visit) := by
  rw [Parameters.layers, List.mapM_cons, List.mapM_cons, List.mapM_cons,
    ← StageLayers.addressedFrom_traverseFrom]
  simp [Parameters.traverse, Parameters.layers, visitListed]

-- ============================================================== results

/-- Every result of `x` has `P`, as far as anything that comes after `x` can
tell. -/
structure Returns {α : Type} (x : m α) (P : α → Prop) : Prop where
  bind_congr : ∀ {β : Type} (f g : α → m β),
    (∀ a, P a → f a = g a) → x >>= f = x >>= g

namespace Returns

variable {α β : Type} {P : α → Prop} {Q : β → Prop}

omit [LawfulMonad m] in

/-- Nothing is asked of the result. -/
theorem any {x : m α} : Returns x fun _ => True := by
  constructor
  intro β f g hfg
  have heq : f = g := funext fun a => hfg a trivial
  rw [heq]

/-- A value that satisfies the condition is returned. -/
theorem pure {a : α} (ha : P a) : Returns (Pure.pure a : m α) P := by
  constructor
  intro β f g hfg
  rw [pure_bind, pure_bind]
  exact hfg a ha

/-- The second part may rely on what the first one returns. -/
theorem bind {x : m α} {f : α → m β} (hx : Returns x P)
    (hf : ∀ a, P a → Returns (f a) Q) :
    Returns (x >>= f) Q := by
  constructor
  intro γ g₁ g₂ hg
  rw [bind_assoc, bind_assoc]
  apply hx.bind_congr
  intro a ha
  exact (hf a ha).bind_congr g₁ g₂ hg

end Returns

-- A traversal whose visits keep some aspect of each layer keeps it for all.

variable {keep : Layer → Layer}

/-- What a visit keeps of each layer, a traversal keeps of the side branch. -/
theorem SideLayers.map_traverse {visit : Nat → Layer → m Layer} {s : SideLayers}
    (h : ∀ i l, Returns (visit i l) fun l' => keep l' = keep l) :
    Returns (s.traverse visit) fun s' => s'.map keep = s.map keep := by
  unfold SideLayers.traverse
  apply (h 0 s.depthwise).bind
  intro depthwise hdepthwise
  apply (h 1 s.pointwise).bind
  intro pointwise hpointwise
  apply Returns.pure
  rw [SideLayers.map, SideLayers.map, hdepthwise, hpointwise]

theorem MainLayers.map_traverse {visit : Nat → Layer → m Layer} {b : MainLayers}
    (h : ∀ i l, Returns (visit i l) fun l' => keep l' = keep l) :
    Returns (b.traverse visit) fun b' => b'.map keep = b.map keep := by
  unfold MainLayers.traverse
  apply (h 0 b.reduce).bind
  intro reduce hreduce
  apply (h 1 b.depthwise).bind
  intro depthwise hdepthwise
  apply (h 2 b.expand).bind
  intro expand hexpand
  apply Returns.pure
  rw [MainLayers.map, MainLayers.map, hreduce, hdepthwise, hexpand]

variable (h : ∀ address l, Returns (visit address l) fun l' => keep l' = keep l)
include h

theorem BlockLayers.map_traverse {stage repetition : Nat} {b : BlockLayers} :
    Returns (b.traverse visit stage repetition) fun b' => b'.map keep
      = b.map keep := by
  have hmain := MainLayers.map_traverse (b := b.main)
    fun i => h (.block stage repetition .two i)
  unfold BlockLayers.traverse
  cases hside : b.side with
  | none =>
      simp only [pure_bind]
      apply hmain.bind
      intro main hmain
      apply Returns.pure
      rw [BlockLayers.map, BlockLayers.map, hmain, hside]
  | some s =>
      have hs :=
        SideLayers.map_traverse (s := s) fun i =>
          h (.block stage repetition .one i)
      simp only [pure_bind]
      apply hs.bind
      intro s' hs'
      apply hmain.bind
      intro main hmain
      apply Returns.pure
      rw [BlockLayers.map, BlockLayers.map, hmain, hside, Option.map_some,
        Option.map_some, hs']

theorem BlockLayers.map_traverseFrom {stage repetition : Nat}
    {blocks : List BlockLayers} :
    Returns (BlockLayers.traverseFrom visit stage repetition blocks)
      fun blocks' =>
      blocks'.map (BlockLayers.map keep)
        = blocks.map (BlockLayers.map keep) := by
  induction blocks generalizing repetition with
  | nil => exact Returns.pure rfl
  | cons b rest ih =>
      apply (BlockLayers.map_traverse h).bind
      intro b' hb
      apply ih.bind
      intro rest' hrest
      apply Returns.pure
      rw [List.map_cons, List.map_cons, hb, hrest]

theorem StageLayers.map_traverseFrom {stage : Nat} {stages : List StageLayers} :
    Returns (StageLayers.traverseFrom visit stage stages) fun stages' =>
      stages'.map (StageLayers.map keep)
        = stages.map (StageLayers.map keep) := by
  induction stages generalizing stage with
  | nil => exact Returns.pure rfl
  | cons s rest ih =>
      apply Returns.bind (P := fun s' : StageLayers => s'.map keep = s.map keep)
      · apply (BlockLayers.map_traverseFrom h).bind
        intro blocks hblocks
        apply Returns.pure
        rw [StageLayers.map, StageLayers.map, hblocks]
      · intro s' hs
        apply ih.bind
        intro rest' hrest
        apply Returns.pure
        rw [List.map_cons, List.map_cons, hs, hrest]

/-- Visits that keep some aspect of each layer keep it for the network, and
with it all that is not in a layer. -/
theorem Parameters.map_traverse {p : Parameters} :
    Returns (p.traverse visit) fun p' => p'.map keep = p.map keep := by
  unfold Parameters.traverse
  apply (h .stem p.stem).bind
  intro stem hstem
  apply (h .head p.head).bind
  intro head hhead
  apply (h .classifier p.classifier).bind
  intro classifier hclassifier
  apply (StageLayers.map_traverseFrom h).bind
  intro stages hstages
  apply Returns.pure
  rw [Parameters.map, Parameters.map, hstem, hhead, hclassifier, hstages]

end FireNet
