/-
The simulation between a bound step and a pure function. A step *computes*
`f` from an input into an output when, on every arena that covers the
layout it was bound in, whatever the tensors hold, it succeeds, leaves in
the output what `f` makes of the input, and rewrites no tensor outside a
range of numbers of its own.

Ranges come from allocation: a set-up numbers its tensors on from the ones
that are there, so the input lies below the range and two set-ups in a row
have ranges side by side. That is why no operator ever clobbers a tensor
that is still needed, and why the relation composes (`Computes.seq`).
-/
import FireNet.Proofs.Binding

set_option autoImplicit false

namespace FireNet

/-- On arenas that cover `layout`, `step` computes `f` from `input` into
`output` and rewrites only the tensors numbered from `lo` up to `hi`. -/
structure Computes (layout : Arena) (input output : TensorId) (lo hi : Nat)
    (step : Step Arena Unit) (f : Tensor Single → Option (Tensor Single)) :
    Prop where
  input_lt : input.index < lo
  lo_le : lo ≤ hi
  output_lt : output.index < hi
  hi_le : hi ≤ layout.tensors.size
  run : ∀ (a : Arena) (x : Tensor Single),
    a.Covers layout → a.tensor? input = some x →
    ∃ (y : Tensor Single) (a' : Arena), f x = some y ∧ step a = .ok () a' ∧
      a'.Covers layout ∧ a'.tensor? output = some y ∧ a.Rewrites a' lo hi

namespace Computes

variable {layout : Arena} {input mid output : TensorId} {lo m hi : Nat}
  {step step' : Step Arena Unit} {f g : Tensor Single → Option (Tensor Single)}

/-- Only inputs of the bound shape matter. -/
theorem congr {s : Shape} (h : Computes layout input output lo hi step f)
    (hs : layout.shape? input = some s)
    (hfg : ∀ x : Tensor Single, x.shape = s → x.Sound → f x = g x) :
    Computes layout input output lo hi step g := by
  refine ⟨h.input_lt, h.lo_le, h.output_lt, h.hi_le, fun a x ha hx => ?_⟩
  obtain ⟨y, a', hf, hrun⟩ := h.run a x ha hx
  obtain ⟨hshape, hsound⟩ := ha.found hs hx
  exact ⟨y, a', by rw [← hfg x hshape hsound, hf], hrun⟩

/-- What is allocated later does not matter. -/
theorem grow {layout' : Arena} (h : Computes layout input output lo hi step f)
    (hg : layout.Grows layout') :
    Computes layout' input output lo hi step f := by
  refine ⟨h.input_lt, h.lo_le, h.output_lt, Nat.le_trans h.hi_le hg.size_le,
    fun a x ha hx => ?_⟩
  obtain ⟨y, a', hf, hstep, hcovers, hout, hrewrites⟩ :=
    h.run a x (ha.of_grows hg) hx
  exact ⟨y, a', hf, hstep, ha.of_rewrites_grows hg h.hi_le hcovers hrewrites,
    hout, hrewrites⟩

/-- Doing nothing computes the identity. -/
theorem refl (hinput : input.index < lo) (hlo : lo ≤ layout.tensors.size) :
    Computes layout input input lo lo (pure ()) some :=
  ⟨hinput, Nat.le_refl lo, hinput, hlo, fun a x ha hx =>
    ⟨x, a, rfl, rfl, ha, hx, Arena.Rewrites.refl⟩⟩

/-- Two computations in a row, each in a range of its own. -/
theorem seq (h₁ : Computes layout input mid lo m step f)
    (h₂ : Computes layout mid output m hi step' g) :
    Computes layout input output lo hi (do step; step')
      (fun x => f x >>= g) := by
  refine ⟨h₁.input_lt, Nat.le_trans h₁.lo_le h₂.lo_le, h₂.output_lt, h₂.hi_le,
    fun a x ha hx => ?_⟩
  obtain ⟨y, a₁, hf, hstep, hcovers, hmid, hrewrites⟩ := h₁.run a x ha hx
  obtain ⟨z, a₂, hg, hstep', hcovers', hout, hrewrites'⟩ :=
    h₂.run a₁ y hcovers hmid
  refine ⟨z, a₂, ?_, Step.bind_eq_ok_iff.2 ⟨(), a₁, hstep, hstep'⟩,
    hcovers', hout, ?_⟩
  · show f x >>= g = some z
    rw [hf, Option.bind_eq_bind, Option.bind_some, hg]
  · exact (hrewrites.widen (Nat.le_refl lo) h₂.lo_le).trans
      (hrewrites'.widen h₁.lo_le (Nat.le_refl hi))

end Computes

-- =========================================================== primitives

/-- A checked primitive whose output is numbered after its input computes
its action. -/
theorem Primitive.computes {p : Primitive} {layout : Arena}
    (hin : layout.shape? p.input = some p.inShape)
    (hout : layout.shape? p.output = some p.outShape)
    (hcheck : p.action.check p.name p.inShape p.outShape = .ok ())
    (hlt : p.input.index < p.output.index) :
    Computes layout p.input p.output p.output.index
      (p.output.index + 1) p.forward
      (p.action.over? p.handle.backend p.outShape) := by
  refine ⟨hlt, Nat.le_succ _, Nat.lt_succ_self _, Arena.shape?_eq_some_lt hout,
    fun a x ha hx => ?_⟩
  obtain ⟨hxshape, hxs⟩ := ha.found hin hx
  obtain ⟨old, hold, holdShape, holds⟩ := ha _ _ hout
  have hne : p.input ≠ p.output := by
    intro heq
    rw [heq] at hlt
    exact Nat.lt_irrefl _ hlt
  obtain ⟨y, hover, hyshape, hys, hrun⟩ :=
    Primitive.forward_eq_ok hcheck hx hxs hxshape hold holds holdShape hne
  have hlt' := Arena.tensor?_eq_some_lt hold
  refine ⟨y, _, hover, hrun, ha.put (by rw [hyshape]; exact hout) hys, ?_,
    Arena.rewrites_put⟩
  exact Arena.tensor?_put_self hlt'

/-- A window gives its places as the shape of the result. -/
theorem Window.shape?_eq_some {w : Window} {image outShape : Shape}
    (h : w.Places image.height image.width (outShape.height, outShape.width)) :
    w.shape? outShape.channels image = some outShape := by
  rw [shape?, output?_eq_some_some_iff.2 h]
  rfl

/-- A primitive over its own output is the action on the backend of its
handle, when the action gives that shape. -/
theorem Primitive.computes_run (p : Primitive) {layout : Arena}
    (hin : layout.shape? p.input = some p.inShape)
    (hout : layout.shape? p.output = some p.outShape)
    (hcheck : p.action.check p.name p.inShape p.outShape = .ok ())
    (hlt : p.input.index < p.output.index)
    (hshape : p.action.outShape? p.inShape = some p.outShape) :
    Computes layout p.input p.output p.output.index
      (p.output.index + 1) p.forward
      (p.action.run? p.handle.backend) := by
  refine (Primitive.computes hin hout hcheck hlt).congr hin fun x hx _ => ?_
  rw [Action.run?, hx, hshape]
  rfl

/-- A convolution bound to a new output computes it, and the new output is
all that the arena grew by. -/
theorem Binding.convolve_computes {name : String} {kind : Layer → Action}
    {layer : Layer} {input : TensorId} {handle : Handle} {b b' : Bench}
    {p : Primitive}
    (hkind : ∀ image,
      (kind layer).outShape? image = layer.window.shape? layer.outputs image)
    (h : Binding.convolve name kind layer input handle b = .ok p b') :
    b.arena.Grows b'.arena
      ∧ Computes b'.arena input p.output b.arena.tensors.size
        b'.arena.tensors.size p.forward ((kind layer).run? handle.backend) := by
  obtain ⟨image, outShape, hin, hplaces, hchannels, hfits, hcheck, rfl, rfl⟩ :=
    Binding.convolve_eq_ok_iff.1 h
  have hnew : (b.arena.grow [outShape]).shape? ⟨b.arena.tensors.size⟩
      = some outShape :=
    Arena.shape?_grow_added (i := 0)
  refine ⟨Arena.grows_one hfits, ?_⟩
  have hcomputes := Primitive.computes_run
    ⟨name, kind layer, input, ⟨b.arena.tensors.size⟩, image, outShape, handle⟩
    (Arena.shape?_grow_of_some hin) hnew hcheck (Arena.shape?_eq_some_lt hin)
    (by
      show (kind layer).outShape? image = some outShape
      rw [hkind, ← hchannels]
      exact Window.shape?_eq_some hplaces)
  have hsize : (b.arena.grow [outShape]).tensors.size
      = b.arena.tensors.size + 1 :=
    Arena.size_grow [outShape]
  show Computes (b.arena.grow [outShape]) _ _ _
    (b.arena.grow [outShape]).tensors.size _ _
  rw [hsize]
  exact hcomputes

end FireNet
