/-
What a pass may touch. A pass of an operator changes the tensors that the
operator was bound to write, and no other, however it ends: an output is
taken out, computed and put back, and where that fails it is the one
tensor left different. Passes one after another touch what each of them
touches, so the rules below follow the sequencing and never look at the
values.
-/
import FireNet.Operator.Basic
import FireNet.Proofs.Arena

set_option autoImplicit false

namespace FireNet

-- ================================================================ steps

/-- However the step ends, all tensors but these are as they were. -/
def Step.Writes {α : Type} (step : Step Arena α) (ids : List TensorId) : Prop :=
  ∀ (a : Arena) (id : TensorId),
    id ∉ ids → (step.runFrom a).2.tensor? id = a.tensor? id

namespace Step.Writes

variable {α β : Type} {x : Step Arena α} {ids more : List TensorId}

theorem pure {value : α} : Writes (Pure.pure value) ids := fun _ _ _ => rfl

theorem refuse {e : Error} : Writes (FireNet.refuse e : Step Arena α) ids :=
  fun _ _ _ => rfl

theorem ofOption {value : Option α} : Writes (Step.ofOption value) ids := by
  intro a id _
  cases value with
  | none => rfl
  | some x => rfl

/-- What is written one after another is written by both. -/
theorem bind {f : α → Step Arena β} (hx : Writes x ids)
    (hf : ∀ value, Writes (f value) ids) :
    Writes (x >>= f) ids := by
  intro a id hid
  have hfirst := hx a id hid
  unfold Step.runFrom at hfirst ⊢
  cases hstep : x a with
  | error e b =>
      rw [hstep] at hfirst
      rw [bind_of_error hstep]
      exact hfirst
  | ok value b =>
      rw [hstep] at hfirst
      rw [bind_of_ok hstep]
      exact (hf value b id hid).trans hfirst

theorem get_bind {f : Arena → Step Arena β} (hf : ∀ a, Writes (f a) ids) :
    Writes (get >>= f) ids := fun a id hid => hf a a id hid

/-- A step may be said to write more. -/
theorem mono (hx : Writes x ids) (hids : ids ⊆ more) : Writes x more :=
  fun a id hid => hx a id fun hmem => hid (hids hmem)

/-- Two passes in a row write what the one and the other write. -/
theorem andThen {y : α → Step Arena β} (hx : Writes x ids)
    (hy : ∀ value, Writes (y value) more) :
    Writes (x >>= y) (ids ++ more) :=
  (hx.mono (List.subset_append_left ids more)).bind fun value =>
    (hy value).mono (List.subset_append_right ids more)

/-- A check writes nothing. -/
theorem checkBound {op : String} {id : TensorId} {bound : Shape} :
    Writes (Arena.checkBound op id bound) ids := by
  refine get_bind fun a => ofOption.bind fun data =>
    ofOption.bind fun size => ?_
  split
  · exact refuse
  · exact pure

/-- An output that is not put back is still the only one that differs. -/
theorem withOutput {output : TensorId}
    {fill : Arena → Array Single → Option (β × Array Single)} :
    Writes (Arena.withOutput output fill) [output] := by
  intro a id hid
  have hne : id ≠ output := List.ne_of_not_mem_cons hid
  unfold Arena.withOutput Step.runFrom
  dsimp only
  cases a.tensor? output with
  | none => rfl
  | some t =>
      dsimp only
      cases fill (a.put output Tensor.empty) t.data with
      | none => exact Arena.tensor?_put_of_ne hne
      | some result =>
          exact (Arena.tensor?_put_of_ne hne).trans
            (Arena.tensor?_put_of_ne hne)

/-- Two detached outputs are all that is written. -/
theorem withOutputs {first second : TensorId}
    {fill : Arena → Array Single → Array Single →
      Option (β × Array Single × Array Single)} :
    Writes (Arena.withOutputs first second fill) [first, second] := by
  intro a id hid
  have hfirst : id ≠ first := List.ne_of_not_mem_cons hid
  have hsecond : id ≠ second :=
    List.ne_of_not_mem_cons (List.not_mem_of_not_mem_cons hid)
  have hput : ∀ (b : Arena) (t u : Tensor Single),
      ((b.put first t).put second u).tensor? id = b.tensor? id := fun b t u =>
    (Arena.tensor?_put_of_ne hsecond).trans (Arena.tensor?_put_of_ne hfirst)
  unfold Arena.withOutputs Step.runFrom
  dsimp only
  by_cases hsame : first = second
  · rw [if_pos hsame]
  · rw [if_neg hsame]
    cases a.tensor? first with
    | none => rfl
    | some t =>
        dsimp only
        cases (a.put first Tensor.empty).tensor? second with
        | none => exact Arena.tensor?_put_of_ne hfirst
        | some u =>
            dsimp only
            cases fill ((a.put first Tensor.empty).put second Tensor.empty)
              t.data u.data with
            | none => exact hput a _ _
            | some result => exact (hput _ _ _).trans (hput a _ _)

end Step.Writes

-- ============================================================ operators

namespace Primitive

/-- The tensors that a pass writes. -/
def writes (p : Primitive) : List TensorId := [p.output]

/-- A primitive writes its output. -/
theorem forward_writes (p : Primitive) : p.forward.Writes p.writes :=
  .bind .checkBound fun _ => .bind .checkBound fun _ => .withOutput

end Primitive

namespace Split

/-- The halves. -/
def writes (s : Split) : List TensorId := [s.first, s.second]

/-- A split writes the two halves. -/
theorem forward_writes (s : Split) : s.forward.Writes s.writes :=
  .bind .checkBound fun _ => .bind .checkBound fun _ =>
    .bind .checkBound fun _ => .withOutputs

end Split

namespace Interleave

/-- Where the channels meet. -/
def writes (s : Interleave) : List TensorId := [s.output]

/-- An interleave writes one tensor. -/
theorem forward_writes (s : Interleave) : s.forward.Writes s.writes :=
  .bind .checkBound fun _ => .bind .checkBound fun _ =>
    .bind .checkBound fun _ => .withOutput

end Interleave

namespace SideBranch

/-- Both outputs of the branch. -/
def writes (b : SideBranch) : List TensorId :=
  b.depthwise.writes ++ b.pointwise.writes

/-- A side branch writes what its two primitives write. -/
theorem forward_writes (b : SideBranch) : b.forward.Writes b.writes :=
  b.depthwise.forward_writes.andThen fun _ => b.pointwise.forward_writes

end SideBranch

namespace MainBranch

/-- All three outputs of the branch. -/
def writes (b : MainBranch) : List TensorId :=
  b.reduce.writes ++ (b.depthwise.writes ++ b.expand.writes)

/-- A main branch writes what its three primitives write. -/
theorem forward_writes (b : MainBranch) : b.forward.Writes b.writes :=
  b.reduce.forward_writes.andThen fun _ =>
    b.depthwise.forward_writes.andThen fun _ => b.expand.forward_writes

end MainBranch

namespace BlockPath

/-- What the branches on it write; the halves too where there is a split. -/
def writes : BlockPath → List TensorId
  | downsample side main => side.writes ++ main.writes
  | keep split main => split.writes ++ main.writes

/-- A path writes what stands on it. -/
theorem forward_writes (path : BlockPath) :
    path.forward.Writes path.writes := by
  cases path with
  | downsample side main => exact side.forward_writes.andThen fun _ =>
    main.forward_writes
  | keep split main => exact split.forward_writes.andThen fun _ =>
    main.forward_writes

end BlockPath

namespace Block

/-- The path and what the shuffle puts together. -/
def writes (b : Block) : List TensorId := b.path.writes ++ b.shuffle.writes

/-- A block writes its path and its output. -/
theorem forward_writes (b : Block) : b.forward.Writes b.writes :=
  b.path.forward_writes.andThen fun _ => b.shuffle.forward_writes

end Block

namespace Stage

/-- What the blocks write. -/
def writes (s : Stage) : List TensorId := s.blocks.flatMap Block.writes

/-- Blocks in a row write what each of them writes. -/
theorem forwardBlocks_writes (blocks : List Block) :
    (forwardBlocks blocks).Writes (blocks.flatMap Block.writes) := by
  induction blocks with
  | nil => exact .pure
  | cons b rest ih =>
      rw [List.flatMap_cons]
      exact b.forward_writes.andThen fun _ => ih

/-- A stage writes what its blocks write. -/
theorem forward_writes (s : Stage) : s.forward.Writes s.writes :=
  forwardBlocks_writes s.blocks

end Stage

namespace Operator

/-- The tensors that a pass writes: those that the operator was given to
write, or that its set-up allocated. -/
def writes : Operator → List TensorId
  | primitive p => p.writes
  | split s => s.writes
  | interleave i => i.writes
  | sideBranch b => b.writes
  | mainBranch b => b.writes
  | block b => b.writes
  | stage s => s.writes

/-- However a pass ends, what it was not bound to write is as it was. -/
theorem forward_writes (o : Operator) : o.forward.Writes o.writes := by
  cases o with
  | primitive p => exact p.forward_writes
  | split s => exact s.forward_writes
  | interleave i => exact i.forward_writes
  | sideBranch b => exact b.forward_writes
  | mainBranch b => exact b.forward_writes
  | block b => exact b.forward_writes
  | stage s => exact s.forward_writes

end Operator

end FireNet
