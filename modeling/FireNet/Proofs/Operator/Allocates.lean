/-
What a set-up allocates, as a triple. A set-up *allocates* a list of shapes
on an arena when it succeeds exactly if all of them fit, whatever was
reported before, and then the arena has grown by them.

A step that may use what was allocated before it may also use that those
shapes fit (`Allocates.bind`): sizes that depend on a tensor can rely on
the tensor being there.
-/
import FireNet.Proofs.Binding

set_option autoImplicit false

namespace FireNet

/-- On benches with arena `a`, `step` succeeds exactly if the shapes fit;
then it adds them to the arena, and the result has `Q`. -/
structure Allocates {α : Type} (step : Binding α) (a : Arena)
    (shapes : List Shape) (Q : α → Prop) : Prop where
  succeeds : ∀ b : Bench, b.arena = a → (∀ s ∈ shapes, s.Fits) → ∃ x b',
    step b = .ok x b'
  allocated : ∀ (b b' : Bench) (x : α), b.arena = a → step b = .ok x b' →
    (∀ s ∈ shapes, s.Fits) ∧ b'.arena = a.grow shapes ∧ Q x

namespace Allocates

variable {α β : Type} {step : Binding α} {a : Arena} {xs ys : List Shape}
  {Q : α → Prop} {R : β → Prop}

/-- One set-up after another allocates in a row. -/
theorem bind {f : α → Binding β} (xs : List Shape) (h₁ : Allocates step a xs Q)
    (h₂ : (∀ s ∈ xs, s.Fits) → ∀ x, Q x → Allocates (f x) (a.grow xs) ys R) :
    Allocates (step >>= f) a (xs ++ ys) R := by
  constructor
  · intro b hb hfits
    rw [List.forall_mem_append] at hfits
    obtain ⟨x, b₁, hx⟩ := h₁.succeeds b hb hfits.1
    obtain ⟨-, hgrow, hQ⟩ := h₁.allocated b b₁ x hb hx
    obtain ⟨y, b₂, hy⟩ := (h₂ hfits.1 x hQ).succeeds b₁ hgrow hfits.2
    exact ⟨y, b₂, Step.bind_eq_ok_iff.2 ⟨x, b₁, hx, hy⟩⟩
  · intro b b' y hb hrun
    obtain ⟨x, b₁, hx, hy⟩ := Step.bind_eq_ok_iff.1 hrun
    obtain ⟨hxs, hgrow, hQ⟩ := h₁.allocated b b₁ x hb hx
    obtain ⟨hys, hgrow', hR⟩ := (h₂ hxs x hQ).allocated b₁ b' y hgrow hy
    refine ⟨List.forall_mem_append.2 ⟨hxs, hys⟩, ?_, hR⟩
    rw [hgrow', Arena.grow_grow]

/-- A step that allocates nothing, first. -/
theorem bind_nil {f : α → Binding β} (h₁ : Allocates step a [] Q)
    (h₂ : ∀ x, Q x → Allocates (f x) a ys R) :
    Allocates (step >>= f) a ys R := by
  refine bind [] h₁ fun _ x hx => ?_
  rw [Arena.grow_nil]
  exact h₂ x hx

/-- A step that allocates, and then one that does not. -/
theorem bind_last {f : α → Binding β} (xs : List Shape)
    (h₁ : Allocates step a xs Q)
    (h₂ : ∀ x, Q x → Allocates (f x) (a.grow xs) [] R) :
    Allocates (step >>= f) a xs R := by
  have h := bind xs h₁ fun _ => h₂
  rw [List.append_nil] at h
  exact h

/-- A step that neither fails nor touches the arena. -/
theorem of_keeps {x : α}
    (h : ∀ b : Bench, b.arena = a → ∃ b', step b = .ok x b' ∧ b'.arena = a)
    (hQ : Q x) : Allocates step a [] Q := by
  constructor
  · intro b hb _
    obtain ⟨b', hstep, -⟩ := h b hb
    exact ⟨x, b', hstep⟩
  · intro b b' y hb hstep
    obtain ⟨b'', hstep', harena⟩ := h b hb
    rw [hstep'] at hstep
    cases hstep
    exact ⟨fun _ hs => absurd hs List.not_mem_nil, by
      rw [harena, Arena.grow_nil], hQ⟩

theorem pure {x : α} (hQ : Q x) : Allocates (Pure.pure x) a [] Q :=
  of_keeps (fun b hb => ⟨b, rfl, hb⟩) hQ

theorem ofOutcome {outcome : Outcome α} {x : α} (h : outcome = .ok x)
    (hQ : Q x) :
    Allocates (Step.ofOutcome outcome) a [] Q :=
  of_keeps (fun b hb => ⟨b, Step.ofOutcome_eq_ok_iff.2 ⟨h, rfl⟩, hb⟩) hQ

theorem emit {e : Event} : Allocates (Binding.emit e) a [] fun _ => True :=
  of_keeps (x := ()) (fun _ hb => ⟨_, Binding.emit_eq_ok_iff.2 rfl, hb⟩) trivial

theorem note {level : Level} {text : String} :
    Allocates (Binding.note level text) a [] fun _ => True := emit

theorem get :
    Allocates (MonadState.get : Binding Bench) a [] fun b => b.arena = a := by
  constructor
  · intro b _ _
    exact ⟨b, b, rfl⟩
  · intro b b' x hb hstep
    obtain ⟨rfl, rfl⟩ := Step.get_eq_ok_iff.1 hstep
    exact ⟨fun _ hs => absurd hs List.not_mem_nil, by
      rw [hb, Arena.grow_nil], hb⟩

theorem shapeOf {id : TensorId} {s : Shape} (h : a.shape? id = some s) :
    Allocates (Binding.shapeOf id) a [] (· = s) :=
  of_keeps (fun b hb => ⟨b, Binding.shapeOf_eq_ok_iff.2 ⟨hb ▸ h, rfl⟩, hb⟩) rfl

/-- A new tensor is numbered next. -/
theorem alloc {s : Shape} :
    Allocates (Binding.alloc s) a [s] (· = ⟨a.tensors.size⟩) := by
  constructor
  · intro b _ hfits
    exact ⟨_, _, Binding.alloc_eq_ok_iff.2
      ⟨hfits s (List.mem_singleton.2 rfl), rfl, rfl⟩⟩
  · intro b b' x heq hstep
    obtain rfl := heq
    obtain ⟨hfits, rfl, rfl⟩ := Binding.alloc_eq_ok_iff.1 hstep
    refine ⟨fun t ht => ?_, rfl, rfl⟩
    rw [List.mem_singleton.1 ht]
    exact hfits

-- What a set-up begins with, and how it goes on.

/-- An allocation is the first of what a procedure adds. -/
theorem bind_alloc {s : Shape} {f : TensorId → Binding β}
    (h : s.Fits → Allocates (f ⟨a.tensors.size⟩) (a.grow [s]) ys R) :
    Allocates (Binding.alloc s >>= f) a (s :: ys) R := by
  refine bind [s] alloc ?_
  intro hfits _ heq
  obtain rfl := heq
  exact h (hfits s (List.mem_singleton.2 rfl))

/-- Looking a shape up adds nothing. -/
theorem bind_shapeOf {id : TensorId} {s : Shape} {f : Shape → Binding β}
    (hs : a.shape? id = some s) (h : Allocates (f s) a ys R) :
    Allocates (Binding.shapeOf id >>= f) a ys R := by
  refine bind_nil (shapeOf hs) ?_
  intro _ heq
  obtain rfl := heq
  exact h

theorem bind_ofOutcome {outcome : Outcome α} {x : α} {f : α → Binding β}
    (hx : outcome = .ok x) (h : Allocates (f x) a ys R) :
    Allocates (Step.ofOutcome outcome >>= f) a ys R := by
  refine bind_nil (ofOutcome hx rfl) ?_
  intro _ heq
  obtain rfl := heq
  exact h

theorem balanced (h : Allocates step a xs Q) :
    Allocates (Binding.balanced step) a xs Q := by
  constructor
  · intro b hb hfits
    obtain ⟨x, after, hstep⟩ := h.succeeds ⟨b.arena, #[]⟩ hb hfits
    exact ⟨x, _, Binding.balanced_eq_ok_iff.2 ⟨after, hstep, rfl⟩⟩
  · intro b b' x hb hstep
    obtain ⟨after, hstep', rfl⟩ := Binding.balanced_eq_ok_iff.1 hstep
    exact h.allocated ⟨b.arena, #[]⟩ after x hb hstep'

/-- A step behind a check that passes. -/
theorem guard {c : Prop} [Decidable c] {e : Error} {f : Unit → Binding α}
    (hc : ¬c) (h : Allocates step a xs Q) :
    Allocates (if c then refuse e >>= f else step) a xs Q := by
  rw [if_neg hc]
  exact h

end Allocates

-- =========================================================== primitives

variable {name : String} {handle : Handle} {a : Arena} {input output : TensorId}
  {image outShape : Shape}

/-- Binding a checked primitive allocates nothing. -/
theorem Primitive.setup_allocates {action : Action}
    (hin : a.shape? input = some image) (hout : a.shape? output = some outShape)
    (hcheck : action.check name image outShape = .ok ()) :
    Allocates (Primitive.setup name action input output handle) a []
      (·.output = output) := by
  refine .of_keeps (x := ⟨name, action, input, output, image, outShape, handle⟩)
    (fun b hb => ?_) rfl
  exact ⟨_, Primitive.setup_eq_ok_iff.2
    ⟨image, outShape, hb ▸ hin, hb ▸ hout, hcheck, rfl, rfl⟩, hb⟩

/-- A convolution of either kind allocates its output. -/
theorem Binding.convolve_allocates {kind : Layer → Action} {layer : Layer}
    (hin : a.shape? input = some image)
    (hplaces : layer.window.Places image.height image.width
      (outShape.height, outShape.width))
    (hchannels : outShape.channels = layer.outputs)
    (hcheck : (kind layer).check name image outShape = .ok ()) :
    Allocates (Binding.convolve name kind layer input handle) a [outShape]
      (·.output = ⟨a.tensors.size⟩) := by
  obtain ⟨height, width, channels⟩ := outShape
  subst hchannels
  refine .bind_shapeOf hin ?_
  refine .bind_ofOutcome (Check.windowOutput_eq_ok_iff.2 hplaces) ?_
  refine .bind_alloc fun _ => ?_
  exact Primitive.setup_allocates (Arena.shape?_grow_of_some hin)
    (Arena.shape?_grow_added (i := 0)) hcheck

end FireNet
