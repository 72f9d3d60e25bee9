/-
An arena from its first tensor on. A rig is an arena with the operators
that were bound in it, and it is called in any order: tensors are
allocated and written, operators are set up, with success or without, and
run. Only a fault ends a run of calls; a call that is refused goes down as
a call like any other.

The invariant (`Good`) says that every tensor is as long as its shape, and
that every operator is bound among tensors that are still there, of the
same shapes. So a pass meets what its set-up met, and leaves all shapes and
lengths as they are; a set-up only adds. Each call keeps the invariant, and
what becomes of ids, shapes, lengths and contents is read off the steps.
-/
import FireNet.Proofs.Operator.Extends
import FireNet.Proofs.Operator.Replay
import Mathlib.Algebra.GroupWithZero.Nat

set_option autoImplicit false

namespace FireNet

-- ================================================================ calls

/-- How a step ends unless it faults: with a result or without, and in which
state. -/
def Step.settle? {σ α : Type} (step : Step σ α) (s : σ) :
    Option (Option α × σ) :=
  match step s with
  | .ok x t => some (some x, t)
  | .error (.error _) t => some (none, t)
  | .error .fault _ => none

namespace Step

variable {σ α : Type} {step : Step σ α} {s t : σ}

/-- A step that is settled has succeeded, or was refused. -/
theorem ends_of_settle? {result : Option α}
    (h : step.settle? s = some (result, t)) :
    (∃ x, step s = .ok x t ∧ result = some x)
      ∨ ∃ e, step s = .error (.error e) t ∧ result = none := by
  unfold settle? at h
  cases hstep : step s with
  | ok x t' =>
      rw [hstep] at h
      cases h
      exact .inl ⟨x, rfl, rfl⟩
  | error failure t' =>
      rw [hstep] at h
      cases failure with
      | fault => cases h
      | error e =>
          cases h
          exact .inr ⟨e, rfl, rfl⟩

end Step

namespace Arena

variable {a b : Arena} {s : Shape} {id : TensorId}

/-- Allocating is not refused. -/
theorem settle?_alloc {result : Option TensorId}
    (h : (alloc s).settle? a = some (result, b)) :
    s.Fits ∧ result = some ⟨a.tensors.size⟩ ∧ b = a.grow [s] := by
  rcases Step.ends_of_settle? h with ⟨id, hok, rfl⟩ | ⟨e, herror, -⟩
  · obtain ⟨hfits, rfl, rfl⟩ := alloc_eq_ok_iff.1 hok
    exact ⟨hfits, rfl, rfl⟩
  · cases (alloc_eq_error herror).1

/-- Writing is not refused. -/
theorem settle?_write {data : Array Single} {result : Option Unit}
    (h : (write id data).settle? a = some (result, b)) :
    ∃ t, a.tensor? id = some t ∧ data.size = t.data.size
      ∧ b = a.put id ⟨t.shape, data⟩ := by
  unfold Step.settle? at h
  cases ht : a.tensor? id with
  | none =>
      have hfault : write id data a = .error .fault a := by
        unfold write
        rw [Step.get_bind, ht]
        exact Step.none_bind
      rw [hfault] at h
      cases h
  | some t =>
      refine ⟨t, rfl, ?_⟩
      by_cases hsize : data.size = t.data.size
      · rw [write_eq_ok ht hsize] at h
        cases h
        exact ⟨hsize, rfl⟩
      · have hfault : write id data a = .error .fault a := by
          unfold write
          rw [Step.get_bind, ht, Step.some_bind, if_neg hsize]
          rfl
        rw [hfault] at h
        cases h

end Arena

-- ================================================================= rigs

/-- An arena in use, with its operators and the ids that were handed out, in
order. -/
structure Rig where
  arena : Arena
  operators : List Operator
  issued : List TensorId

namespace Rig

/-- What is done with an arena. An operator is run by its number. -/
inductive Call where
  | alloc (shape : Shape)
  | write (id : TensorId) (data : Array Single)
  | setup (plan : Plan) (handle : Handle)
  | forward (operator : Nat)

/-- Nothing there. -/
def empty : Rig := ⟨.empty, [], []⟩

/-- One call, where it is possible and does not fault. -/
def step (r : Rig) : Call → Option Rig
  | .alloc shape => do
    let (id, arena) ← (Arena.alloc shape).settle? r.arena
    some { r with arena := arena, issued := r.issued ++ id.toList }
  | .write id data => do
    let (_, arena) ← (Arena.write id data).settle? r.arena
    some { r with arena := arena }
  | .setup plan handle => do
    let (operator, bench) ← (plan.bind handle).settle? (Bench.ofArena r.arena)
    some ⟨bench.arena, r.operators ++ operator.toList,
      r.issued ++ operator.toList.flatMap Operator.own⟩
  | .forward i => do
    let o ← r.operators[i]?
    let (_, arena) ← o.forward.settle? r.arena
    some { r with arena := arena }

/-- Call after call, as long as each can be made. -/
def run (r : Rig) : List Call → Option Rig
  | [] => some r
  | call :: rest => do (← r.step call).run rest

/-- What a call can do. -/
inductive Steps (r : Rig) : Call → Rig → Prop where
  | alloc {shape : Shape} (hfits : shape.Fits) :
      Steps r (.alloc shape)
        ⟨r.arena.grow [shape], r.operators,
          r.issued ++ [⟨r.arena.tensors.size⟩]⟩
  | write {id : TensorId} {t : Tensor Single} {data : Array Single}
      (ht : r.arena.tensor? id = some t) (hsize : data.size = t.data.size) :
      Steps r (.write id data)
        { r with arena := r.arena.put id ⟨t.shape, data⟩ }
  | bound {plan : Plan} {handle : Handle} {o : Operator} {b : Bench}
      (hbind : plan.bind handle (Bench.ofArena r.arena) = .ok o b) :
      Steps r (.setup plan handle)
        ⟨b.arena, r.operators ++ [o], r.issued ++ o.own⟩
  | refused {plan : Plan} {handle : Handle} {e : Error} {b : Bench}
      (hbind : plan.bind handle (Bench.ofArena r.arena) = .error (.error e) b) :
      Steps r (.setup plan handle) { r with arena := b.arena }
  | forward {i : Nat} {o : Operator} {result : Option Unit} {arena : Arena}
      (ho : r.operators[i]? = some o)
      (hrun : o.forward.settle? r.arena = some (result, arena)) :
      Steps r (.forward i) { r with arena := arena }

variable {r r' : Rig} {call : Call}

/-- The ways a call can go. -/
theorem steps_of_step (hstep : r.step call = some r') : r.Steps call r' := by
  cases call with
  | alloc shape =>
      simp only [step, Option.bind_eq_bind, Option.bind_eq_some_iff] at hstep
      obtain ⟨⟨id, arena⟩, hsettle, hstep⟩ := hstep
      obtain ⟨hfits, rfl, rfl⟩ := Arena.settle?_alloc hsettle
      cases hstep
      exact .alloc hfits
  | write id data =>
      simp only [step, Option.bind_eq_bind, Option.bind_eq_some_iff] at hstep
      obtain ⟨⟨u, arena⟩, hsettle, hstep⟩ := hstep
      obtain ⟨t, ht, hsize, rfl⟩ := Arena.settle?_write hsettle
      cases hstep
      exact .write ht hsize
  | setup plan handle =>
      simp only [step, Option.bind_eq_bind, Option.bind_eq_some_iff] at hstep
      obtain ⟨⟨operator, b⟩, hsettle, hstep⟩ := hstep
      cases hstep
      rcases Step.ends_of_settle? hsettle with ⟨o, hbind, rfl⟩ | ⟨e, hbind, rfl⟩
      · rw [Option.toList_some, List.flatMap_singleton]
        exact .bound hbind
      · rw [Option.toList_none, List.flatMap_nil, List.append_nil,
          List.append_nil]
        exact .refused hbind
  | forward i =>
      simp only [step, Option.bind_eq_bind, Option.bind_eq_some_iff] at hstep
      obtain ⟨o, ho, ⟨result, arena⟩, hsettle, hstep⟩ := hstep
      cases hstep
      exact .forward ho hsettle

end Rig

-- ============================================================ invariant

namespace Arena

variable {a b : Arena} {o : Operator}

/-- The operator was bound among tensors that are still there. -/
def Carries (a : Arena) (o : Operator) : Prop :=
  ∃ (plan : Plan) (handle : Handle) (b b' : Bench),
    plan.bind handle b = .ok o b'
    ∧ a.Covers b'.arena

/-- What was bound stays bound while the arena grows. -/
theorem Carries.grows (h : a.Carries o) (hg : a.Grows b) : b.Carries o := by
  obtain ⟨plan, handle, start, after, hbind, hcovers⟩ := h
  exact ⟨plan, handle, start, after, hbind, hcovers.grows hg⟩

/-- And whatever the tensors hold. -/
theorem Carries.of_alike (h : a.Carries o) (hb : a.Alike b) : b.Carries o := by
  obtain ⟨plan, handle, start, after, hbind, hcovers⟩ := h
  exact ⟨plan, handle, start, after, hbind, hcovers.of_alike hb⟩

/-- A pass that does not fault leaves all shapes and lengths. -/
theorem Carries.forward_alike {result : Option Unit} (h : a.Carries o)
    (hrun : o.forward.settle? a = some (result, b)) : a.Alike b := by
  obtain ⟨plan, handle, start, after, hbind, hcovers⟩ := h
  unfold Step.settle? at hrun
  by_cases hreads : o.ReadsOutput
  · obtain ⟨a', hfault⟩ := Plan.forward_eq_fault hbind hcovers hreads
    rw [hfault] at hrun
    cases hrun
  · obtain ⟨a', hok, halike⟩ := Plan.forward_alike hbind hcovers hreads
    rw [hok] at hrun
    cases hrun
    exact halike

/-- The bytes of all tensors, four for each element. -/
theorem footprint_eq (a : Arena) :
    a.footprint = 4 * (a.tensors.toList.map fun t => t.data.size).sum := by
  have hfrom : ∀ (ts : List (Tensor Single)) (n : Nat),
      ts.foldl (fun n t => n + t.data.size * 4) n
        = n + 4 * (ts.map fun t => t.data.size).sum := by
    intro ts
    induction ts with
    | nil => exact fun n => rfl
    | cons t rest ih =>
        intro n
        rw [List.foldl_cons, ih, List.map_cons, List.sum_cons]
        omega
  rw [footprint, ← Array.foldl_toList]
  exact (hfrom _ 0).trans (Nat.zero_add _)

end Arena

namespace Rig

variable {r r' : Rig} {call : Call} {calls : List Call}

/-- All lengths are right, all operators can be run, and no id was handed out
twice. -/
structure Good (r : Rig) : Prop where
  sound : r.arena.Sound
  carries : ∀ o ∈ r.operators, r.arena.Carries o
  issued_lt : ∀ id ∈ r.issued, id.index < r.arena.tensors.size
  nodup : r.issued.Nodup

/-- A rig starts out good. -/
theorem empty_good : empty.Good :=
  ⟨Arena.empty_sound, fun _ h => absurd h List.not_mem_nil,
    fun _ h => absurd h List.not_mem_nil, List.nodup_nil⟩

/-- Contents do not matter to it. -/
theorem Good.of_alike {b : Arena} (h : r.Good) (hb : r.arena.Alike b) :
    Good { r with arena := b } := by
  refine ⟨h.sound.of_alike hb, fun o ho => (h.carries o ho).of_alike hb,
    fun id hid => ?_, h.nodup⟩
  have ht : r.arena.tensor? id = some _ :=
    Array.getElem?_eq_getElem (h.issued_lt id hid)
  obtain ⟨u, hu, -⟩ := hb.exists_tensor? ht
  exact Arena.tensor?_eq_some_lt hu

/-- When the arena grows, new ids may be handed out, and new operators. -/
theorem Good.grows {b : Arena} (more : List Operator) (ids : List TensorId)
    (h : r.Good) (hb : r.arena.Grows b) (hmore : ∀ o ∈ more, b.Carries o)
    (hids : ids.Nodup)
    (hnew : ∀ id ∈ ids,
      r.arena.tensors.size ≤ id.index ∧ id.index < b.tensors.size) :
    Good ⟨b, r.operators ++ more, r.issued ++ ids⟩ := by
  refine ⟨h.sound.grows hb, List.forall_mem_append.2 ⟨fun o ho => ?_, hmore⟩,
    List.forall_mem_append.2 ⟨fun id hid => ?_, fun id hid => (hnew id hid).2⟩,
    List.nodup_append.2 ⟨h.nodup, hids, fun id hid other hother heq => ?_⟩⟩
  · exact (h.carries o ho).grows hb
  · exact Nat.lt_of_lt_of_le (h.issued_lt id hid) hb.size_le
  · have hold := h.issued_lt id hid
    have hlast := (hnew other hother).1
    rw [heq] at hold
    omega

/-- Each call keeps the invariant. -/
theorem Good.step (h : r.Good) (hstep : r.step call = some r') : r'.Good := by
  cases steps_of_step hstep with
  | alloc hfits =>
      have hgrows := Arena.growsBy_one (a := r.arena) hfits
      have hgood :=
        h.grows [] _ hgrows.grows (fun o ho => absurd ho List.not_mem_nil)
          hgrows.nodup fun id => hgrows.mem_iff.1
      rw [List.append_nil] at hgood
      exact hgood
  | write ht hsize => exact h.of_alike (Arena.alike_put ht rfl hsize)
  | bound hbind =>
      obtain ⟨hgrows, -⟩ := Plan.bind_growsBy hbind
      refine h.grows _ _ hgrows.grows (fun o ho => ?_) hgrows.nodup fun id =>
        hgrows.mem_iff.1
      rw [List.mem_singleton.1 ho]
      exact ⟨_, _, _, _, hbind, (h.sound.grows hgrows.grows).covers⟩
  | refused hbind =>
      have hgood := h.grows [] [] (Plan.bind_error_grows hbind)
        (fun o ho => absurd ho List.not_mem_nil) List.nodup_nil
        fun id hid => absurd hid List.not_mem_nil
      rw [List.append_nil, List.append_nil] at hgood
      exact hgood
  | forward ho hrun =>
      exact h.of_alike
        ((h.carries _ (List.mem_of_getElem? ho)).forward_alike hrun)

/-- A whole run keeps the rig good, by induction over its calls. -/
theorem Good.run (h : r.Good) (hrun : r.run calls = some r') : r'.Good := by
  induction calls generalizing r with
  | nil =>
      cases hrun
      exact h
  | cons call rest ih =>
      obtain ⟨next, hstep, hrest⟩ := Option.bind_eq_some_iff.1 hrun
      exact ih (h.step hstep) hrest

-- ============================================================== changes

/-- What a call changes. A set-up adds tensors of zeros; where it succeeds,
they are handed out with the operator. A pass writes what the operator was
bound to write. -/
def Changes (r : Rig) (call : Call) (r' : Rig) : Prop :=
  match call with
  | .alloc shape =>
    r' = ⟨r.arena.grow [shape], r.operators,
      r.issued ++ [⟨r.arena.tensors.size⟩]⟩
  | .write id data => ∃ t, r.arena.tensor? id = some t ∧ data.size = t.data.size
    ∧ r' = { r with arena := r.arena.put id ⟨t.shape, data⟩ }
  | .setup plan _ => ∃ ids b, r.arena.GrowsBy ids b
    ∧ (r' = { r with arena := b }
      ∨ ∃ o, o.writes = plan.targets ++ ids
        ∧ r' = ⟨b, r.operators ++ [o], r.issued ++ ids⟩)
  | .forward i => ∃ o b, r.operators[i]? = some o ∧ r.arena.Alike b
    ∧ (∀ id, id ∉ o.writes → b.tensor? id = r.arena.tensor? id)
      ∧ r' = { r with arena := b }

/-- What each call changes in a good rig. -/
theorem Good.changes (h : r.Good) (hstep : r.step call = some r') :
    r.Changes call r' := by
  cases steps_of_step hstep with
  | alloc hfits => rfl
  | write ht hsize => exact ⟨_, ht, hsize, rfl⟩
  | bound hbind =>
      obtain ⟨hgrows, hwrites⟩ := Plan.bind_growsBy hbind
      exact ⟨_, _, hgrows, .inr ⟨_, hwrites, rfl⟩⟩
  | refused hbind =>
      obtain ⟨ids, hgrows⟩ := (Plan.bind_error_grows hbind).exists_growsBy
      exact ⟨ids, _, hgrows, .inl rfl⟩
  | @forward i o result arena ho hrun =>
      have halike := (h.carries o (List.mem_of_getElem? ho)).forward_alike hrun
      refine ⟨o, arena, ho, halike, fun id hid => ?_, rfl⟩
      have hsame := o.forward_writes r.arena id hid
      rcases Step.ends_of_settle? hrun with ⟨u, hok, -⟩ | ⟨e, herror, -⟩
      · rw [Step.runFrom_eq_ok_iff.2 hok] at hsame
        exact hsame
      · rw [Step.runFrom_eq_error_iff.2 herror] at hsame
        exact hsame

/-- What stays for as long as the arena: the shapes of its tensors, and all
that was handed out. -/
structure Keeps (r r' : Rig) : Prop where
  shape? : ∀ id s, r.arena.shape? id = some s → r'.arena.shape? id = some s
  issued : r.issued <+: r'.issued

theorem Keeps.refl : r.Keeps r := ⟨fun _ _ hs => hs, List.prefix_refl _⟩

theorem Keeps.trans {r'' : Rig} (h₁ : r.Keeps r') (h₂ : r'.Keeps r'') :
    r.Keeps r'' :=
  ⟨fun id s hs => h₂.shape? id s (h₁.shape? id s hs), h₁.issued.trans h₂.issued⟩

/-- No call takes a tensor or an id away. -/
theorem Changes.keeps (h : r.Changes call r') : r.Keeps r' := by
  cases call with
  | alloc shape =>
      obtain rfl := h
      exact ⟨fun _ _ => Arena.shape?_grow_of_some, List.prefix_append _ _⟩
  | write id data =>
      obtain ⟨t, ht, hsize, rfl⟩ := h
      have halike := Arena.alike_put (u := ⟨t.shape, data⟩) ht rfl hsize
      exact ⟨fun _ _ => halike.shape?, List.prefix_refl _⟩
  | setup plan handle =>
      obtain ⟨ids, b, hgrows, rfl | ⟨o, -, rfl⟩⟩ := h
      · exact ⟨fun _ _ => hgrows.grows.shape?, List.prefix_refl _⟩
      · exact ⟨fun _ _ => hgrows.grows.shape?, List.prefix_append _ _⟩
  | forward i =>
      obtain ⟨o, b, -, halike, -, rfl⟩ := h
      exact ⟨fun _ _ => halike.shape?, List.prefix_refl _⟩

/-- So no run does. -/
theorem Good.run_keeps (h : r.Good) (hrun : r.run calls = some r') :
    r.Keeps r' := by
  induction calls generalizing r with
  | nil =>
      cases hrun
      exact .refl
  | cons call rest ih =>
      obtain ⟨next, hstep, hrest⟩ := Option.bind_eq_some_iff.1 hrun
      exact (h.changes hstep).keeps.trans (ih (h.step hstep) hrest)

/-- After every run of calls the ids that were handed out are different and
good, every tensor is as long as its shape, and the bytes are those of all
shapes; and however the run goes on, shapes and ids stay, and each call
changes what it says. -/
theorem tensors_last (hrun : empty.run calls = some r) :
    r.issued.Nodup
      ∧ (∀ id ∈ r.issued, ∃ t, r.arena.tensor? id = some t)
      ∧ (∀ id t, r.arena.tensor? id = some t → t.data.size = t.shape.volume)
      ∧ r.arena.footprint
        = 4 * (r.arena.tensors.toList.map fun t => t.shape.volume).sum
      ∧ (∀ more r', r.run more = some r' → r.Keeps r')
      ∧ ∀ call r', r.step call = some r' → r.Changes call r' := by
  have hgood : r.Good := empty_good.run hrun
  refine ⟨hgood.nodup, fun id hid => ?_,
    fun id t ht => (hgood.sound id t ht).size_eq, ?_,
    fun more r' => hgood.run_keeps, fun call r' => hgood.changes⟩
  · exact ⟨_, Array.getElem?_eq_getElem (hgood.issued_lt id hid)⟩
  · rw [Arena.footprint_eq]
    congr 2
    refine List.map_congr_left fun t ht => ?_
    obtain ⟨i, hi⟩ := List.getElem?_of_mem ht
    rw [Array.getElem?_toList] at hi
    exact (hgood.sound ⟨i⟩ t hi).size_eq

/-- A pool that is bound and run, after a branch that was refused and left its
first tensor there. -/
theorem tensors_last_max_pool :
    ∃ (layer : Layer) (r r' : Rig),
      empty.run [.alloc ⟨3, 3, 2⟩, .alloc ⟨2, 2, 2⟩,
          .setup (.sideBranch "branch" ⟨0⟩ ⟨layer, layer⟩) ⟨.scalar⟩,
          .setup (.primitive "pool" (.maxPool (Window.square 3 2 1)) ⟨0⟩ ⟨1⟩)
            ⟨.scalar⟩] = some r
        ∧ r.step (.forward 0) = some r' ∧ r.arena.tensors.size = 3
        ∧ r.issued = [⟨0⟩, ⟨1⟩] ∧ r.issued.Nodup
        ∧ r.Changes (.forward 0) r' := by
  obtain ⟨r, r', hrun, hstep, hsize, hissued⟩ : ∃ r r' : Rig,
      empty.run [.alloc ⟨3, 3, 2⟩, .alloc ⟨2, 2, 2⟩,
          .setup (.sideBranch "branch" ⟨0⟩
            ⟨⟨2, 2, Window.square 3 2 1, .relu, #[], none⟩,
            ⟨2, 2, Window.square 3 2 1, .relu, #[], none⟩⟩) ⟨.scalar⟩,
          .setup (.primitive "pool" (.maxPool (Window.square 3 2 1)) ⟨0⟩ ⟨1⟩)
            ⟨.scalar⟩] = some r
        ∧ r.step (.forward 0) = some r' ∧ r.arena.tensors.size = 3
        ∧ r.issued = [⟨0⟩, ⟨1⟩] :=
    ⟨_, _, rfl, rfl, rfl, rfl⟩
  obtain ⟨hnodup, -, -, -, -, hchanges⟩ := tensors_last hrun
  exact ⟨_, r, r', hrun, hstep, hsize, hissued, hnodup, hchanges _ _ hstep⟩

end Rig

end FireNet
