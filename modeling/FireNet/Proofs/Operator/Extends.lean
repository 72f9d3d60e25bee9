/-
What a set-up does to the arena, however it ends. It adds tensors of zeros
and touches none that is there; one that fails may have added some of them
already. A set-up that succeeds keeps count: the tensors that it added are
those of the operator that it bound, one after another.

A set-up is followed along its steps (`Extends`): the ids of the tensors
added so far are handed from one step to the next, and the last one says
what they are to the result.
-/
import FireNet.Operator.Plan
import FireNet.Proofs.Binding
import FireNet.Proofs.Operator.Writes

set_option autoImplicit false

namespace FireNet

-- =============================================================== growth

namespace Arena

/-- Some tensors of zeros were added under these ids, and nothing else. -/
def GrowsBy (a : Arena) (ids : List TensorId) (b : Arena) : Prop :=
  ∃ shapes, (∀ s ∈ shapes, s.Fits) ∧ b = a.grow shapes
    ∧ ids = (List.range' a.tensors.size shapes.length).map TensorId.mk

variable {a b c : Arena} {ids more : List TensorId} {id : TensorId} {s : Shape}

theorem GrowsBy.refl : a.GrowsBy [] a := by
  exact ⟨[], fun _ h => absurd h List.not_mem_nil, grow_nil.symm, rfl⟩

/-- What is added in two steps is added in one, in that order. -/
theorem GrowsBy.trans (h₁ : a.GrowsBy ids b) (h₂ : b.GrowsBy more c) :
    a.GrowsBy (ids ++ more) c := by
  obtain ⟨xs, hxs, rfl, rfl⟩ := h₁
  obtain ⟨ys, hys, rfl, rfl⟩ := h₂
  refine ⟨xs ++ ys, List.forall_mem_append.2 ⟨hxs, hys⟩, grow_grow xs ys, ?_⟩
  rw [size_grow, List.length_append, ← List.map_append]
  congr 1
  simp

/-- Forgetting the ids leaves growth. -/
theorem GrowsBy.grows (h : a.GrowsBy ids b) : a.Grows b := by
  obtain ⟨shapes, hfits, hb, -⟩ := h
  exact ⟨shapes, hfits, hb⟩

/-- Whatever an arena grew by has ids. -/
theorem Grows.exists_growsBy (h : a.Grows b) : ∃ ids, a.GrowsBy ids b := by
  obtain ⟨shapes, hfits, hb⟩ := h
  exact ⟨_, shapes, hfits, hb, rfl⟩

theorem growsBy_one (h : s.Fits) : a.GrowsBy [⟨a.tensors.size⟩] (a.grow [s]) :=
  ⟨[s], fun _ ht => List.mem_singleton.1 ht ▸ h, rfl, rfl⟩

/-- What is added is numbered on from what is there. -/
theorem GrowsBy.mem_iff (h : a.GrowsBy ids b) :
    id ∈ ids ↔ a.tensors.size ≤ id.index ∧ id.index < b.tensors.size := by
  obtain ⟨shapes, -, rfl, rfl⟩ := h
  rw [size_grow, List.mem_map]
  constructor
  · intro hall
    obtain ⟨i, hi, rfl⟩ := hall
    exact List.mem_range'_1.1 hi
  · intro hi
    exact ⟨id.index, List.mem_range'_1.2 hi, rfl⟩

/-- No id is given twice. -/
theorem GrowsBy.nodup (h : a.GrowsBy ids b) : ids.Nodup := by
  obtain ⟨shapes, -, -, rfl⟩ := h
  refine List.Pairwise.map _ (fun i j hne heq => hne ?_) List.nodup_range'
  exact congrArg TensorId.index heq

end Arena

-- =============================================================== triple

/-- From the ids of the tensors added so far a step comes to more of them,
with `Q` of its result and all of them; when it fails, some tensors were
added too. -/
structure Extends {α : Type} (step : Binding α) (ids : List TensorId)
    (Q : α → List TensorId → Prop) : Prop where
  ok : ∀ (b b' : Bench) (x : α), step b = .ok x b' →
    ∃ more, b.arena.GrowsBy more b'.arena ∧ Q x (ids ++ more)
  error : ∀ (b b' : Bench) (e : Failure),
    step b = .error e b' → b.arena.Grows b'.arena

/-- A step that leaves the arena alone. -/
def Binding.OffArena {α : Type} (step : Binding α) : Prop :=
  ∀ b, (step.runFrom b).2.arena = b.arena

namespace Binding

variable {α β : Type}

theorem offArena_ofOutcome {outcome : Outcome α} :
    OffArena (Step.ofOutcome outcome) := by
  intro b
  cases outcome with
  | error e => rfl
  | ok x => rfl

theorem offArena_emit {e : Event} : OffArena (emit e) := fun _ => rfl

theorem offArena_shapeOf {id : TensorId} : OffArena (shapeOf id) := by
  intro b
  show ((Step.ofOption (b.arena.shape? id) : Binding Shape).runFrom b).2.arena
    = _
  exact offArena_ofOutcome b

end Binding

namespace Extends

variable {α β : Type} {step : Binding α} {ids : List TensorId}
  {Q : α → List TensorId → Prop} {R : β → List TensorId → Prop}

/-- A step off the arena adds no tensor. -/
theorem offArena (h : Binding.OffArena step) :
    Extends step ids fun _ all => all = ids := by
  constructor
  · intro b b' x hstep
    have harena := h b
    rw [Step.runFrom_eq_ok_iff.2 hstep] at harena
    exact ⟨[], harena ▸ .refl, List.append_nil ids⟩
  · intro b b' e hstep
    have harena := h b
    rw [Step.runFrom_eq_error_iff.2 hstep] at harena
    exact harena ▸ .refl

/-- A condition may be replaced by a weaker one. -/
theorem weaken {Q' : α → List TensorId → Prop} (h : Extends step ids Q)
    (hQ : ∀ x all, Q x all → Q' x all) : Extends step ids Q' := by
  constructor
  · intro b b' x hstep
    obtain ⟨more, hgrows, hx⟩ := h.ok b b' x hstep
    exact ⟨more, hgrows, hQ x _ hx⟩
  · exact h.error

theorem pure {x : α} (h : Q x ids) : Extends (Pure.pure x) ids Q := by
  constructor
  · intro b b' y hstep
    cases hstep
    exact ⟨[], .refl, (List.append_nil ids).symm ▸ h⟩
  · intro b b' e hstep
    cases hstep

theorem refuse {e : Error} : Extends (FireNet.refuse e : Binding α) ids Q := by
  constructor
  · intro b b' x hstep
    cases hstep
  · intro b b' e hstep
    cases hstep
    exact .refl

/-- A new tensor takes the next id. -/
theorem alloc {s : Shape} :
    Extends (Binding.alloc s) ids fun id all => all = ids ++ [id] := by
  constructor
  · intro b b' id hstep
    obtain ⟨hfits, rfl, rfl⟩ := Binding.alloc_eq_ok_iff.1 hstep
    exact ⟨_, Arena.growsBy_one hfits, rfl⟩
  · intro b b' e hstep
    unfold Binding.alloc Binding.onArena at hstep
    cases halloc : Arena.alloc s b.arena with
    | ok id arena =>
        rw [halloc] at hstep
        cases hstep
    | error e' arena =>
        rw [halloc] at hstep
        cases hstep
        exact (Arena.alloc_eq_error halloc).2 ▸ .refl

/-- One step after another. -/
theorem bind {f : α → Binding β} (h₁ : Extends step ids Q)
    (h₂ : ∀ x all, Q x all → Extends (f x) all R) :
    Extends (step >>= f) ids R := by
  constructor
  · intro b b' y hstep
    obtain ⟨x, b₁, hx, hy⟩ := Step.bind_eq_ok_iff.1 hstep
    obtain ⟨xs, hxs, hQ⟩ := h₁.ok b b₁ x hx
    obtain ⟨ys, hys, hR⟩ := (h₂ x _ hQ).ok b₁ b' y hy
    exact ⟨xs ++ ys, hxs.trans hys, List.append_assoc ids xs ys ▸ hR⟩
  · intro b b' e hstep
    cases hx : step b with
    | error e₁ b₁ =>
        rw [Step.bind_of_error hx] at hstep
        cases hstep
        exact h₁.error b _ _ hx
    | ok x b₁ =>
        rw [Step.bind_of_ok hx] at hstep
        obtain ⟨xs, hxs, hQ⟩ := h₁.ok b b₁ x hx
        exact hxs.grows.trans ((h₂ x _ hQ).error b₁ b' e hstep)

/-- A step off the arena can stand in front of any other. -/
theorem bind_offArena {f : α → Binding β} (h : Binding.OffArena step)
    (h₂ : ∀ x, Extends (f x) ids R) : Extends (step >>= f) ids R := by
  refine (offArena h).bind fun x all hall => ?_
  subst hall
  exact h₂ x

/-- An allocation adds one id behind those that were there. -/
theorem bind_alloc {s : Shape} {f : TensorId → Binding β}
    (h : ∀ id, Extends (f id) (ids ++ [id]) R) :
    Extends (Binding.alloc s >>= f) ids R := by
  refine alloc.bind fun id all hall => ?_
  subst hall
  exact h id

theorem bind_refuse {e : Error} {f : α → Binding β} :
    Extends (FireNet.refuse e >>= f) ids R :=
  (refuse (Q := fun _ _ => False)).bind fun _ _ hfalse => hfalse.elim

/-- A check adds none. -/
theorem guard {c : Prop} [Decidable c] {e : Error} {f : Unit → Binding α}
    (h : Extends step ids Q) :
    Extends (if c then FireNet.refuse e >>= f else step) ids Q := by
  by_cases hc : c
  · rw [if_pos hc]
    exact bind_refuse
  · rw [if_neg hc]
    exact h

theorem map {f : α → β} (h : Extends step ids fun x all => R (f x) all) :
    Extends (f <$> step) ids R := by
  rw [← bind_pure_comp]
  exact h.bind fun _ _ hx => .pure hx

/-- Giving claims back leaves the arena alone. -/
theorem balanced (h : Extends step ids Q) :
    Extends (Binding.balanced step) ids Q := by
  constructor
  · intro b b' x hstep
    obtain ⟨after, hafter, rfl⟩ := Binding.balanced_eq_ok_iff.1 hstep
    exact h.ok ⟨b.arena, #[]⟩ after x hafter
  · intro b b' e hstep
    unfold Binding.balanced at hstep
    cases hafter : step ⟨b.arena, #[]⟩ with
    | ok x after =>
        rw [hafter] at hstep
        cases hstep
    | error e' after =>
        rw [hafter] at hstep
        cases hstep
        exact h.error ⟨b.arena, #[]⟩ after _ hafter

end Extends

-- ============================================================== set-ups

variable {name : String} {handle : Handle} {ids : List TensorId}

/-- A primitive is bound to the output that it is given. -/
theorem Primitive.setup_extends {action : Action} {input output : TensorId} :
    Extends (Primitive.setup name action input output handle) ids
      fun p all => p.writes = [output] ∧ all = ids := by
  refine .bind_offArena Binding.offArena_shapeOf fun inShape => ?_
  refine .bind_offArena Binding.offArena_shapeOf fun outShape => ?_
  refine .bind_offArena Binding.offArena_ofOutcome fun _ => ?_
  refine .bind_offArena Binding.offArena_emit fun _ => ?_
  exact .bind_offArena Binding.offArena_emit fun _ => .pure ⟨rfl, rfl⟩

/-- A split writes the two tensors that it was given. -/
theorem Split.setup_extends {input first second : TensorId} :
    Extends (Split.setup name input first second) ids
      fun s all => s.writes = [first, second] ∧ all = ids := by
  refine .bind_offArena Binding.offArena_shapeOf fun inShape => ?_
  refine .bind_offArena Binding.offArena_shapeOf fun a => ?_
  refine .bind_offArena Binding.offArena_shapeOf fun b => ?_
  refine .bind_offArena Binding.offArena_ofOutcome fun _ => ?_
  exact .bind_offArena Binding.offArena_emit fun _ => .pure ⟨rfl, rfl⟩

/-- An interleave writes the one tensor that it was given. -/
theorem Interleave.setup_extends {first second output : TensorId} :
    Extends (Interleave.setup name first second output) ids
      fun s all => s.writes = [output] ∧ all = ids := by
  refine .bind_offArena Binding.offArena_shapeOf fun a => ?_
  refine .bind_offArena Binding.offArena_shapeOf fun b => ?_
  refine .bind_offArena Binding.offArena_shapeOf fun outShape => ?_
  refine .bind_offArena Binding.offArena_ofOutcome fun _ => ?_
  exact .bind_offArena Binding.offArena_emit fun _ => .pure ⟨rfl, rfl⟩

/-- A convolution of either kind allocates what it writes. -/
theorem Binding.convolve_extends {kind : Layer → Action} {layer : Layer}
    {input : TensorId} :
    Extends (Binding.convolve name kind layer input handle) ids
      fun p all => all = ids ++ p.writes := by
  refine .bind_offArena offArena_shapeOf fun image => ?_
  refine .bind_offArena offArena_ofOutcome fun extent => ?_
  refine .bind_alloc fun output =>
    Primitive.setup_extends.weaken fun p all hp => ?_
  rw [hp.1, hp.2]

/-- A side branch adds the tensors that it writes, and no others. -/
theorem SideBranch.setup_extends {input : TensorId} {layers : SideLayers} :
    Extends (SideBranch.setup name input layers handle) ids
      fun b all => all = ids ++ b.writes := by
  refine .balanced ?_
  refine .bind Binding.convolve_extends fun depthwise _ heq => ?_
  subst heq
  refine .bind Binding.convolve_extends fun pointwise _ heq => .pure ?_
  rw [heq, List.append_assoc]
  rfl

theorem MainBranch.setup_extends {input : TensorId} {layers : MainLayers} :
    Extends (MainBranch.setup name input layers handle) ids
      fun b all => all = ids ++ b.writes := by
  refine .balanced ?_
  refine .bind Binding.convolve_extends fun reduce _ heq => ?_
  subst heq
  refine .bind Binding.convolve_extends fun depthwise _ heq => ?_
  subst heq
  refine .bind Binding.convolve_extends fun expand _ heq => .pure ?_
  rw [heq, List.append_assoc, List.append_assoc]
  rfl

theorem Block.setupPath_extends {input : TensorId} {inShape : Shape}
    {layers : BlockLayers} :
    Extends (Block.setupPath name input inShape layers handle) ids
      fun path all => all = ids ++ path.writes := by
  unfold Block.setupPath
  split
  · exact .refuse
  · refine .guard (.bind_alloc fun a => .bind_alloc fun b => ?_)
    refine .bind Split.setup_extends fun split _ hsplit => ?_
    obtain ⟨hwrites, rfl⟩ := hsplit
    refine .bind MainBranch.setup_extends fun main _ heq => .pure ?_
    rw [heq, BlockPath.writes, hwrites, List.append_assoc, List.append_assoc]
    rfl
  · exact .refuse
  · exact .refuse
  · refine .bind SideBranch.setup_extends fun side _ heq => ?_
    subst heq
    refine .bind MainBranch.setup_extends fun main _ heq => .pure ?_
    rw [heq, List.append_assoc]
    rfl

theorem Block.setup_extends {input : TensorId} {layers : BlockLayers} :
    Extends (Block.setup name input layers handle) ids
      fun b all => all = ids ++ b.writes := by
  refine .balanced ?_
  refine .bind_offArena Binding.offArena_shapeOf fun inShape => ?_
  refine .guard (.guard ?_)
  refine .bind Block.setupPath_extends fun path _ heq => ?_
  subst heq
  refine .bind_offArena Binding.offArena_shapeOf fun half => ?_
  refine .bind_alloc fun output => ?_
  refine .bind Interleave.setup_extends fun shuffle _ hshuffle => ?_
  obtain ⟨hwrites, rfl⟩ := hshuffle
  refine .bind_offArena Binding.offArena_emit fun _ => .pure ?_
  rw [Block.writes, hwrites, List.append_assoc]

theorem Stage.setupBlocks_extends {layers : List BlockLayers} {index : Nat}
    {input : TensorId} :
    Extends (Stage.setupBlocks name handle index input layers) ids
      fun blocks all => all = ids ++ blocks.flatMap Block.writes := by
  induction layers generalizing index input ids with
  | nil => exact .pure (List.append_nil ids).symm
  | cons first rest ih =>
      refine .bind Block.setup_extends fun block _ heq => ?_
      subst heq
      refine .bind ih fun later _ heq => .pure ?_
      rw [heq, List.append_assoc, List.flatMap_cons]

theorem Stage.setup_extends {number : Nat} {input : TensorId}
    {layers : StageLayers} :
    Extends (Stage.setup number input layers handle) ids
      fun s all => all = ids ++ s.writes := by
  refine .balanced ?_
  dsimp only
  split
  · exact .refuse
  · refine .guard ?_
    split
    · exact .bind_refuse
    · refine .bind Block.setup_extends fun head _ heq => ?_
      subst heq
      refine .bind Stage.setupBlocks_extends fun tail _ heq => .pure ?_
      rw [heq, List.append_assoc]
      rfl

-- ================================================================ plans

/-- The tensors that a plan is given to write; branches, blocks and stages
are given none. -/
def Plan.targets : Plan → List TensorId
  | primitive _ _ _ output => [output]
  | split _ _ first second => [first, second]
  | interleave _ _ _ output => [output]
  | sideBranch _ _ _ => []
  | mainBranch _ _ _ => []
  | block _ _ _ => []
  | stage _ _ _ => []

/-- The tensors that the set-up of an operator allocated for it. -/
def Operator.own : Operator → List TensorId
  | primitive _ => []
  | split _ => []
  | interleave _ => []
  | sideBranch b => b.writes
  | mainBranch b => b.writes
  | block b => b.writes
  | stage s => s.writes

/-- Binding a plan allocates tensors of the operator's own, which is bound to
write these and what the plan was given to write. -/
theorem Plan.bind_extends (plan : Plan) :
    Extends (plan.bind handle) ids
      fun o all => o.writes = plan.targets ++ o.own ∧ all = ids ++ o.own := by
  cases plan with
  | primitive name action input output =>
      exact .map (Primitive.setup_extends.weaken fun p all hp =>
        ⟨hp.1, hp.2.trans (List.append_nil ids).symm⟩)
  | split name input first second =>
      exact .map (Split.setup_extends.weaken fun s all hs =>
        ⟨hs.1, hs.2.trans (List.append_nil ids).symm⟩)
  | interleave name first second output =>
      exact .map (Interleave.setup_extends.weaken fun s all hs =>
        ⟨hs.1, hs.2.trans (List.append_nil ids).symm⟩)
  | sideBranch name input layers =>
      exact .map (SideBranch.setup_extends.weaken fun b all hb => ⟨rfl, hb⟩)
  | mainBranch name input layers =>
      exact .map (MainBranch.setup_extends.weaken fun b all hb => ⟨rfl, hb⟩)
  | block name input layers =>
      exact .map (Block.setup_extends.weaken fun b all hb => ⟨rfl, hb⟩)
  | stage number input layers =>
      exact .map (Stage.setup_extends.weaken fun s all hs => ⟨rfl, hs⟩)

namespace Plan

variable {plan : Plan} {b b' : Bench}

/-- A set-up that succeeds adds the operator's own tensors. -/
theorem bind_growsBy {o : Operator} (h : plan.bind handle b = .ok o b') :
    b.arena.GrowsBy o.own b'.arena ∧ o.writes = plan.targets ++ o.own := by
  have hextends : Extends (plan.bind handle) [] _ := plan.bind_extends
  obtain ⟨more, hgrows, hwrites, hown⟩ := hextends.ok b b' o h
  obtain rfl : more = o.own := hown
  exact ⟨hgrows, hwrites⟩

/-- One that fails adds some tensors, perhaps. -/
theorem bind_error_grows {e : Failure} (h : plan.bind handle b = .error e b') :
    b.arena.Grows b'.arena := by
  have hextends : Extends (plan.bind handle) [] _ := plan.bind_extends
  exact hextends.error b b' e h

end Plan

end FireNet
