/-
The bound network computes the network. Its operators stand in a row, each
bound to the output of the one before it, so their computations compose to
the pure function of the parameters; the input tensor lies below all that a
pass rewrites, so a pass leaves it as it was.

The stages are followed by induction along the row, each one over the arena
that the one before it left. A part that was bound early computes over the
arena of the whole network too, because later parts only add tensors to it
(`Computes.grow`).
-/
import FireNet.Model.Basic
import FireNet.Proofs.Operator.Stage

set_option autoImplicit false

namespace FireNet

namespace Network

variable {b b' : Bench} {handle : Handle}

/-- Stages bound in a row compute their layers in a row. -/
theorem setupStages_computes {layers : List StageLayers} {number : Nat}
    {input : TensorId} {bound : List Stage × TensorId}
    (hin : input.index < b.arena.tensors.size)
    (h : setupStages handle number input layers b = .ok bound b') :
    b.arena.Grows b'.arena
      ∧ Computes b'.arena input bound.2 b.arena.tensors.size
        b'.arena.tensors.size (forwardStages bound.1)
        (fun x => layers.foldlM (fun x l => l.run? handle.backend x) x) := by
  induction layers generalizing number input bound b with
  | nil =>
      simp only [setupStages, Step.pure_eq_ok_iff] at h
      obtain ⟨rfl, rfl⟩ := h
      exact ⟨Arena.Grows.refl, Computes.refl hin (Nat.le_refl _)⟩
  | cons l rest ih =>
      simp only [setupStages, Step.bind_eq_ok_iff, Step.pure_eq_ok_iff] at h
      obtain ⟨stage, b₁, hstage, ⟨later, result⟩, b₂, hlater, rfl, rfl⟩ := h
      obtain ⟨hg₁, hc₁⟩ := Stage.setup_computes hstage
      obtain ⟨hg₂, hc₂⟩ := ih hc₁.output_lt hlater
      refine ⟨hg₁.trans hg₂, ?_⟩
      simp only [List.foldlM_cons]
      exact (hc₁.grow hg₂).seq hc₂

end Network

/-- A primitive bound to a tensor that was just allocated computes its
action, and the tensor is all that the arena grew by. -/
theorem Primitive.setup_new_computes {name : String} {action : Action}
    {input : TensorId} {handle : Handle} {p : Primitive} {a : Arena}
    {events : Array Event} {b' : Bench} {inShape outShape : Shape}
    (hfits : outShape.Fits) (hin : a.shape? input = some inShape)
    (hshape : action.check name inShape outShape = .ok () →
      action.outShape? inShape = some outShape)
    (h : Primitive.setup name action input ⟨a.tensors.size⟩ handle
      ⟨a.grow [outShape], events⟩ = .ok p b') :
    p.output = ⟨a.tensors.size⟩ ∧ b'.arena = a.grow [outShape]
      ∧ a.Grows b'.arena
      ∧ Computes b'.arena input p.output a.tensors.size b'.arena.tensors.size
        p.forward (action.run? handle.backend) := by
  obtain ⟨image, shape, himage, hnew, hcheck, rfl, rfl⟩ :=
    Primitive.setup_eq_ok_iff.1 h
  have hnew' : (a.grow [outShape]).shape? ⟨a.tensors.size⟩ = some outShape :=
    Arena.shape?_grow_added (i := 0)
  rw [hnew'] at hnew
  rw [Arena.shape?_grow_of_some hin] at himage
  cases hnew
  cases himage
  refine ⟨rfl, rfl, Arena.grows_one hfits, ?_⟩
  have hsize : (a.grow [outShape]).tensors.size = a.tensors.size + 1 :=
    Arena.size_grow [outShape]
  show Computes (a.grow [outShape]) _ _ _ (a.grow [outShape]).tensors.size _ _
  rw [hsize]
  exact Primitive.computes_run
    ⟨name, action, input, ⟨a.tensors.size⟩, inShape, outShape, handle⟩
    (Arena.shape?_grow_of_some hin) hnew' hcheck (Arena.shape?_eq_some_lt hin)
      (hshape hcheck)

namespace Network

-- what a check says of the shape of the output
/-- A checked convolution has the output shape that its window leaves. -/
theorem outShape?_convolution {op : String} {layer : Layer}
    {image outShape : Shape}
    (h : (Action.convolution layer).check op image outShape = .ok ()) :
    (Action.convolution layer).outShape? image = some outShape := by
  obtain ⟨-, ⟨-, hchannels⟩, -, hplaces, -⟩ :=
    Action.check_convolution_eq_ok_iff.1 h
  show layer.window.shape? layer.outputs image = some outShape
  rw [← hchannels]
  exact Window.shape?_eq_some hplaces

theorem outShape?_maxPool {op : String} {w : Window} {image outShape : Shape}
    (h : (Action.maxPool w).check op image outShape = .ok ()) :
    (Action.maxPool w).outShape? image = some outShape := by
  obtain ⟨⟨-, hchannels⟩, hplaces, -⟩ := Action.check_maxPool_eq_ok_iff.1 h
  show w.shape? image.channels image = some outShape
  rw [← hchannels]
  exact Window.shape?_eq_some hplaces

/-- A checked mean leaves one pixel. -/
theorem outShape?_meanPool {op : String} {image outShape : Shape}
    {channels : Nat} (h : Action.meanPool.check op image outShape = .ok ())
    (hshape : outShape = ⟨1, 1, channels⟩) :
    Action.meanPool.outShape? image = some outShape := by
  obtain ⟨-, ⟨-, hchannels⟩, -⟩ := Action.check_meanPool_eq_ok_iff.1 h
  subst hshape
  rw [Action.outShape?, ← hchannels]

variable {p : Parameters} {inShape : Shape} {handle : Handle} {b b' : Bench}
  {n : Network}

/-- The operators of a network, in the order of the pass. -/
def replay (n : Network) : Step Arena Unit := do
  n.stem.forward
  n.pool.forward
  forwardStages n.stages
  n.head.forward
  n.mean.forward
  n.classifier.forward

/-- A bound network computes its parameters, from an input tensor of the
bound shape. -/
theorem setup_computes (h : setup p inShape handle b = .ok n b') :
    b.arena.Grows b'.arena ∧ b'.arena.shape? n.input = some inShape
      ∧ b'.arena.shape? n.classifier.output = some ⟨1, 1, p.classifier.outputs⟩
      ∧ Computes b'.arena n.input n.classifier.output (b.arena.tensors.size + 1)
        b'.arena.tensors.size n.replay (p.run? handle.backend) := by
  obtain ⟨after, hafter, rfl⟩ := Binding.balanced_eq_ok_iff.1 h
  simp only [Step.bind_eq_ok_iff, Step.pure_eq_ok_iff, Step.ofOutcome_eq_ok_iff,
    Check.windowOutput_eq_ok_iff, Step.get_eq_ok_iff, Binding.shapeOf_eq_ok_iff,
    Binding.alloc_eq_ok_iff, Binding.note_eq_ok_iff,
    Binding.emit_eq_ok_iff] at hafter
  obtain ⟨_, _, ⟨hfits₀, rfl, rfl⟩, stem, b₁, hstem, hafter⟩ := hafter
  obtain ⟨stemShape, _, ⟨hstemShape, rfl⟩, ⟨height, width⟩, _, ⟨hplaces, rfl⟩,
    hafter⟩ := hafter
  obtain ⟨_, _, ⟨hfits₁, rfl, rfl⟩, pool, b₂, hpool, hafter⟩ := hafter
  obtain ⟨⟨stages, last⟩, b₃, hstages, lastShape, _, ⟨hlast, rfl⟩, hafter⟩ :=
    hafter
  obtain ⟨_, _, ⟨hfits₃, rfl, rfl⟩, head, b₄, hhead, hafter⟩ := hafter
  obtain ⟨_, _, ⟨hfits₄, rfl, rfl⟩, mean, b₅, hmean, hafter⟩ := hafter
  obtain ⟨_, _, ⟨hfits₅, rfl, rfl⟩, classifier, b₆, hclassifier, hafter⟩ :=
    hafter
  obtain ⟨_, _, ⟨rfl, rfl⟩, _, _, rfl, _, _, rfl, rfl, rfl⟩ := hafter
  have hinput : (b.arena.grow [inShape]).shape? ⟨b.arena.tensors.size⟩
      = some inShape :=
    Arena.shape?_grow_added (i := 0)
  -- each part computes over the arena that it was bound in (`c`), and parts
  -- bound later only add to that (`g`)
  obtain ⟨g₁, c₁⟩ := Binding.convolve_computes (fun _ => rfl) hstem
  obtain ⟨hpooled, -, g₂, c₂⟩ :=
    Primitive.setup_new_computes hfits₁ hstemShape outShape?_maxPool hpool
  obtain ⟨g₃, c₃⟩ := setupStages_computes (hpooled ▸ c₂.output_lt) hstages
  obtain ⟨hheadOut, e₄, g₄, c₄⟩ :=
    Primitive.setup_new_computes hfits₃ hlast outShape?_convolution hhead
  have hmeanIn : b₄.arena.shape? ⟨b₃.arena.tensors.size⟩
      = some (lastShape.withChannels p.head.outputs) := by
    rw [e₄]
    exact Arena.shape?_grow_added (i := 0)
  obtain ⟨hmeanOut, e₅, g₅, c₅⟩ := Primitive.setup_new_computes hfits₄ hmeanIn
    (fun h => outShape?_meanPool h rfl) hmean
  have hscoreIn : b₅.arena.shape? ⟨b₄.arena.tensors.size⟩
      = some ⟨1, 1, p.head.outputs⟩ := by
    rw [e₅]
    exact Arena.shape?_grow_added (i := 0)
  obtain ⟨hscoreOut, e₆, g₆, c₆⟩ :=
    Primitive.setup_new_computes hfits₅ hscoreIn (fun _ => rfl) hclassifier
  refine ⟨?_, ?_, ?_, ?_⟩
  · exact (Arena.grows_one hfits₀).trans
      (g₁.trans (g₂.trans (g₃.trans (g₄.trans (g₅.trans g₆)))))
  · exact g₆.shape?
      (g₅.shape? (g₄.shape? (g₃.shape? (g₂.shape? (g₁.shape? hinput)))))
  · show b₆.arena.shape? classifier.output = _
    rw [hscoreOut, e₆]
    exact Arena.shape?_grow_added (i := 0)
  · have hlo : (b.arena.grow [inShape]).tensors.size
        = b.arena.tensors.size + 1 :=
      Arena.size_grow [inShape]
    rw [hpooled] at c₂
    rw [hheadOut] at c₄
    rw [hmeanOut] at c₅
    rw [← hlo]
    exact (c₁.grow (g₂.trans (g₃.trans (g₄.trans (g₅.trans g₆))))).seq
      ((c₂.grow (g₃.trans (g₄.trans (g₅.trans g₆)))).seq
        ((c₃.grow (g₄.trans (g₅.trans g₆))).seq
          ((c₄.grow (g₅.trans g₆)).seq ((c₅.grow g₆).seq c₆))))

/-- The tensor of the input was made. -/
theorem fits_of_setup (h : setup p inShape handle b = .ok n b') :
    inShape.Fits := by
  obtain ⟨after, hafter, -⟩ := Binding.balanced_eq_ok_iff.1 h
  simp only [Step.bind_eq_ok_iff, Binding.alloc_eq_ok_iff] at hafter
  obtain ⟨_, _, ⟨hfits, -⟩, -⟩ := hafter
  exact hfits

/-- One pass over any arena that covers the bound one, whatever its tensors
hold: the score of the input on the backend of the handle comes out, the
input stays, and no tensor changes its shape or length. -/
theorem forward_eq_ok (h : setup p inShape handle b = .ok n b')
    (hpos : 0 < p.classifier.outputs) {a : Arena} {x : Tensor Single}
    (ha : a.Covers b'.arena) (hx : a.tensor? n.input = some x) :
    ∃ (score : Single) (a' : Arena),
      p.score? handle.backend x = some score ∧ n.forward a = .ok score a' ∧
      a.Alike a' ∧ a'.tensor? n.input = some x := by
  obtain ⟨-, -, hscore, hcomputes⟩ := setup_computes h
  obtain ⟨y, a', hrun, hreplay, hcovers, hy, hrewrites⟩ :=
    hcomputes.run a x ha hx
  obtain ⟨hyshape, hys⟩ := hcovers.found hscore hy
  have hsize : y.data.size = p.classifier.outputs := by
    rw [hys.size_eq, hyshape, Shape.volume, Nat.mul_one, Nat.one_mul]
  obtain ⟨score, hfirst⟩ : ∃ score, y.data[0]? = some score :=
    ⟨_, Array.getElem?_eq_getElem (by omega)⟩
  refine ⟨score, a', ?_, ?_,
    Arena.alike_of_rewrites ha hcovers hcomputes.hi_le hrewrites, ?_⟩
  · rw [Parameters.score?, hrun]
    exact hfirst
  · simp only [replay, Step.bind_eq_ok_iff] at hreplay
    obtain ⟨_, a₁, h₁, _, a₂, h₂, _, a₃, h₃, _, a₄, h₄, _, a₅, h₅, h₆⟩ :=
      hreplay
    simp only [forward, Step.bind_eq_ok_iff]
    refine ⟨_, a₁, h₁, _, a₂, h₂, _, a₃, h₃, _, a₄, h₄, _, a₅, h₅, _,
      a', h₆, a', a', Step.get_eq_ok_iff.2 ⟨rfl, rfl⟩, y.data, a', ?_, ?_⟩
    · exact Step.ofOption_eq_ok_iff.2 ⟨Arena.data?_of_tensor? hy, rfl⟩
    · rw [hfirst]
      rfl
  · rw [hrewrites n.input (Or.inl hcomputes.input_lt), hx]

end Network

end FireNet
