/-
Stages compute their layers, by induction over the blocks. Each block is
bound to the output of the one before it, so the ranges of the blocks stand
in a row, and the computations compose in the order of the pass.
-/
import FireNet.Operator.Stage
import FireNet.Proofs.Operator.Block

set_option autoImplicit false

namespace FireNet

namespace Stage

variable {b b' : Bench} {handle : Handle}

/-- Blocks bound in a row after a block compute their layers in a row from
its output. -/
theorem setupBlocks_computes {name : String} {layers : List BlockLayers}
    {index : Nat} {block : Block} {blocks : List Block}
    (hin : block.output.index < b.arena.tensors.size)
    (h : setupBlocks name handle index block.output layers b = .ok blocks b') :
    b.arena.Grows b'.arena
      ∧ Computes b'.arena block.output (blocks.getLastD block).output
        b.arena.tensors.size b'.arena.tensors.size (forwardBlocks blocks)
        (fun x => layers.foldlM (fun x l => l.run? handle.backend x) x) := by
  induction layers generalizing index block blocks b with
  | nil =>
      simp only [setupBlocks, Step.pure_eq_ok_iff] at h
      obtain ⟨rfl, rfl⟩ := h
      exact ⟨Arena.Grows.refl, Computes.refl hin (Nat.le_refl _)⟩
  | cons l rest ih =>
      simp only [setupBlocks, Step.bind_eq_ok_iff, Step.pure_eq_ok_iff] at h
      obtain ⟨next, b₁, hnext, later, b₂, hlater, rfl, rfl⟩ := h
      obtain ⟨hg₁, hc₁⟩ := Block.setup_computes hnext
      obtain ⟨hg₂, hc₂⟩ := ih hc₁.output_lt hlater
      refine ⟨hg₁.trans hg₂, ?_⟩
      simp only [List.foldlM_cons, List.getLastD_cons]
      exact (hc₁.grow hg₂).seq hc₂

/-- A bound stage computes its layers. -/
theorem setup_computes {number : Nat} {input : TensorId} {layers : StageLayers}
    {stage : Stage} (h : setup number input layers handle b = .ok stage b') :
    b.arena.Grows b'.arena
      ∧ Computes b'.arena input stage.output b.arena.tensors.size
        b'.arena.tensors.size stage.forward (layers.run? handle.backend) := by
  obtain ⟨first, later, b₁, b₂, hblocks, -, -, hhead, htail, harena⟩ :=
    setup_cases h
  obtain ⟨hg₁, hc₁⟩ := Block.setup_computes hhead
  obtain ⟨hg₂, hc₂⟩ := setupBlocks_computes hc₁.output_lt htail
  have hrun : layers.run? handle.backend = fun x =>
    first.run? handle.backend x >>= fun x =>
      later.foldlM (fun x l => l.run? handle.backend x) x := by
    funext x
    rw [StageLayers.run?, hblocks, List.foldlM_cons]
  rw [harena, hrun]
  exact ⟨hg₁.trans hg₂, (hc₁.grow hg₂).seq hc₂⟩

end Stage

end FireNet
