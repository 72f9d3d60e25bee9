/-
The engine and those that use it. The engine *serves* some handles when it
counts them, runs on the backend that each of them names, and is torn down
without any; acquiring, cloning and releasing keep that.

A party is a handle that someone holds, something that was bound, or what
is on its way out. A handle can be lent to set-ups, and a set-up in
progress holds as many claims as it has made so far. That its remaining
events come out even is read off the set-up when it starts
(`Job.task_sound`), so nobody has to look into it later.
-/
import FireNet.Proofs.Operator.Claims
import Mathlib.Algebra.GroupWithZero.Nat

set_option autoImplicit false

namespace FireNet

-- ================================================================ lists

section

variable {α β : Type} {f : α → List β} {l : List α} {i : Nat} {x : α}

/-- A member of a list apart from the others. -/
theorem perm_flatMap_eraseIdx (h : l[i]? = some x) :
    (l.flatMap f).Perm (f x ++ (l.eraseIdx i).flatMap f) := by
  induction l generalizing i with
  | nil => cases h
  | cons a rest ih =>
      cases i with
      | zero =>
          cases h
          exact .refl _
      | succ i =>
          rw [List.flatMap_cons, List.eraseIdx_cons_succ, List.flatMap_cons]
          exact ((ih h).append_left (f a)).trans
            (List.perm_append_comm_assoc _ _ _)

/-- The others stay when it is replaced. -/
theorem perm_flatMap_set (h : l[i]? = some x) (y : α) :
    ((l.set i y).flatMap f).Perm (f y ++ (l.eraseIdx i).flatMap f) := by
  have hlt : i < l.length := (List.getElem?_eq_some_iff.1 h).1
  have hset :=
    perm_flatMap_eraseIdx (f := f) (List.getElem?_set_self hlt (a := y))
  rw [List.eraseIdx_set_eq] at hset
  exact hset

end

-- =============================================================== engine

namespace Engine

/-- The engine counts some handles, and runs as they say. -/
structure Serves (e : Engine) (handles : List Handle) : Prop where
  users_eq : e.users = handles.length
  stopped : handles = [] → e.backend = none
  reports : ∀ h ∈ handles, e.backend = some h.backend

/-- An engine without users serves nobody. -/
theorem idle_serves (offered : Backend) : (idle offered).Serves [] :=
  ⟨rfl, fun _ => rfl, fun _ h => by cases h⟩

variable {e : Engine} {handle : Handle} {handles others : List Handle}

/-- The order of the handles does not matter. -/
theorem Serves.perm (h : e.Serves handles) (hperm : handles.Perm others) :
    e.Serves others := by
  constructor
  · rw [h.users_eq, hperm.length_eq]
  · intro heq
    exact h.stopped (List.perm_nil.1 (heq ▸ hperm))
  · intro x hx
    exact h.reports x (hperm.mem_iff.2 hx)

/-- It runs exactly when it has a user. -/
theorem Serves.isSome_backend_iff (h : e.Serves handles) :
    e.backend.isSome = true ↔ 0 < e.users := by
  rw [h.users_eq]
  cases handles with
  | nil => simp [h.stopped rfl]
  | cons x rest => simp [h.reports x List.mem_cons_self]

/-- An engine without a backend has no users. -/
theorem Serves.eq_nil (h : e.Serves handles) (hbackend : e.backend = none) :
    handles = [] := by
  cases handles with
  | nil => rfl
  | cons x rest =>
      have hrunning := h.reports x List.mem_cons_self
      rw [hbackend] at hrunning
      cases hrunning

/-- Without a backend it is as it started. -/
theorem Serves.eq_idle (h : e.Serves handles) (hbackend : e.backend = none) :
    e = idle e.offered := by
  have husers := h.users_eq
  rw [h.eq_nil hbackend] at husers
  obtain ⟨users, backend, offered⟩ := e
  cases husers
  cases hbackend
  rfl

/-- The last release tears the engine down, and no other one changes its
backend. -/
theorem release_backend (e : Engine) :
    e.release.1.backend = e.backend ∨ e.release.1 = idle e.offered := by
  obtain ⟨users, backend, offered⟩ := e
  unfold release
  cases backend with
  | none => exact .inl rfl
  | some backend =>
      by_cases hlast : users - 1 = 0
      · refine .inr ?_
        simp only [hlast, if_pos]
      · simp only [hlast]
        exact .inl rfl

-- the machine stays the same

/-- A release does not change the machine. -/
theorem release_offered (e : Engine) : e.release.1.offered = e.offered := by
  obtain ⟨users, backend, offered⟩ := e
  unfold release
  cases backend with
  | none => rfl
  | some backend =>
      by_cases hlast : users - 1 = 0
      · simp only [hlast, if_pos]
        rfl
      · simp only [hlast]
        rfl

/-- The first handle starts the engine on the backend of its preference. -/
theorem acquire_of_none (preference : Preference) (h : e.backend = none) :
    (e.acquire preference).1 = ⟨preference.backend e.offered⟩
      ∧ (e.acquire preference).2.1
        = ⟨e.users + 1, some (preference.backend e.offered), e.offered⟩ := by
  rw [Engine.acquire, h]
  exact ⟨rfl, rfl⟩

/-- A later one joins it, whatever it prefers. -/
theorem acquire_of_some {backend : Backend} (preference : Preference)
    (h : e.backend = some backend) :
    (e.acquire preference).1 = ⟨backend⟩
      ∧ (e.acquire preference).2.1 = e.claim := by
  obtain ⟨users, _, offered⟩ := e
  cases h
  exact ⟨rfl, rfl⟩

theorem acquire_offered (e : Engine) (preference : Preference) :
    (e.acquire preference).2.1.offered = e.offered := by
  cases h : e.backend with
  | none => rw [(acquire_of_none preference h).2]
  | some backend =>
      rw [(acquire_of_some preference h).2]
      rfl

/-- A new handle is served. -/
theorem Serves.acquire (h : e.Serves handles) (preference : Preference) :
    (e.acquire preference).2.1.Serves
      ((e.acquire preference).1 :: handles) := by
  cases hbackend : e.backend with
  | none =>
      obtain ⟨hhandle, hengine⟩ := acquire_of_none preference hbackend
      have hempty := h.eq_nil hbackend
      subst hempty
      rw [hhandle, hengine]
      refine ⟨congrArg (· + 1) h.users_eq, (fun heq => by cases heq),
        fun x hx => ?_⟩
      rw [List.mem_singleton.1 hx]
  | some backend =>
      obtain ⟨hhandle, hengine⟩ := acquire_of_some preference hbackend
      rw [hhandle, hengine]
      refine ⟨congrArg (· + 1) h.users_eq, (fun heq => by cases heq),
        fun x hx => ?_⟩
      rcases List.mem_cons.1 hx with rfl | hx
      · exact hbackend
      · exact h.reports x hx

theorem Serves.claim (h : e.Serves handles) (hmem : handle ∈ handles) :
    e.claim.Serves (handle :: handles) := by
  refine ⟨congrArg (· + 1) h.users_eq, (fun heq => by cases heq),
    fun x hx => ?_⟩
  rcases List.mem_cons.1 hx with rfl | hx
  · exact h.reports x hmem
  · exact h.reports x hx

/-- The others are served after a release. -/
theorem Serves.release (h : e.Serves (handle :: handles)) :
    e.release.1.Serves handles := by
  have hbackend := h.reports handle List.mem_cons_self
  have husers : e.users - 1 = handles.length := by
    rw [h.users_eq]
    rfl
  unfold Engine.release
  simp only [hbackend, husers]
  cases handles with
  | nil => exact idle_serves e.offered
  | cons x rest =>
      refine ⟨rfl, (fun heq => by cases heq), fun y hy => ?_⟩
      show some handle.backend = _
      rw [← hbackend]
      exact h.reports y (List.mem_cons_of_mem _ hy)

end Engine

/-- What an event does to the engine. -/
def Event.act (e : Engine) : Event → Engine
  | note _ => e
  | claim => e.claim
  | release => e.release.1

theorem Event.act_offered (e : Engine) (event : Event) :
    (event.act e).offered = e.offered := by
  cases event with
  | note r => rfl
  | claim => rfl
  | release => exact e.release_offered

/-- The engine after a set-up is the engine after its events, one by one. -/
theorem Engine.replay_fst (e : Engine) (events : List Event) :
    (e.replay events.toArray).1 = events.foldl Event.act e := by
  unfold Engine.replay
  rw [List.foldl_toArray]
  generalize (#[] : Journal) = journal
  induction events generalizing e journal with
  | nil => rfl
  | cons event rest ih =>
      cases event with
      | note r => exact ih e _
      | claim => exact ih e.claim _
      | release => exact ih e.release.1 _

-- ============================================================== parties

/-- What is bound and in use. -/
inductive Fixture where
  | operator (o : Operator)
  | model (m : Model)

namespace Fixture

/-- The handles inside: one in each primitive, and one more in a model. -/
def handles : Fixture → List Handle
  | operator o => o.primitives.map Primitive.handle
  | model m => m.network.primitives.map Primitive.handle ++ [m.network.handle]

/-- How many users it is. -/
def users : Fixture → Nat
  | operator o => o.claims
  | model m => m.network.claims

/-- A fixture holds a handle for each of its users. -/
theorem length_handles (f : Fixture) : f.handles.length = f.users := by
  cases f with
  | operator o => exact List.length_map _
  | model m =>
      rw [handles, List.length_append, List.length_map]
      rfl

end Fixture

/-- A set-up in progress: the claims that it holds, the events that it is
still to go through, and what it ends in, nothing when it fails. -/
structure Task where
  held : Nat
  events : List Event
  result : Option Fixture

namespace Task

/-- The claims held after one more event. -/
def heldAfter (held : Nat) : Event → Nat
  | .note _ => held
  | .claim => held + 1
  | .release => held - 1

/-- The next event, with what it does to the engine. -/
def advance? (e : Engine) (t : Task) : Option (Engine × Task) :=
  match t.events with
  | [] => none
  | event :: rest =>
    some (event.act e, ⟨heldAfter t.held event, rest, t.result⟩)

theorem advance?_engine {t t' : Task} {e e' : Engine}
    (h : t.advance? e = some (e', t')) :
    ∃ event : Event, e' = event.act e := by
  unfold advance? at h
  split at h
  · cases h
  · next event _ _ =>
      cases h
      exact ⟨event, rfl⟩

/-- What is left of a set-up comes out even: it releases only what it holds,
and what it holds in the end is what its result holds. -/
def Sound (handle : Handle) (t : Task) : Prop :=
  ∃ n, Event.balance t.held t.events = some n
    ∧ t.result.toList.flatMap Fixture.handles = List.replicate n handle

/-- A set-up that came to its end holds what its result holds. -/
theorem Sound.finished {t : Task} {handle : Handle} (h : t.Sound handle)
    (hevents : t.events = []) :
    t.result.toList.flatMap Fixture.handles = List.replicate t.held handle := by
  obtain ⟨n, hn, hresult⟩ := h
  rw [hevents] at hn
  cases hn
  exact hresult

/-- An event of a set-up keeps the count. -/
theorem Sound.advance {t t' : Task} {e e' : Engine} {handle : Handle}
    {others : List Handle} (h : t.Sound handle)
    (hserves : e.Serves (List.replicate t.held handle ++ others))
    (hmem : handle ∈ others) (hnext : t.advance? e = some (e', t')) :
    t'.Sound handle ∧ e'.Serves (List.replicate t'.held handle ++ others) := by
  obtain ⟨held, events, result⟩ := t
  obtain ⟨n, hn, hresult⟩ := h
  cases events with
  | nil => cases hnext
  | cons event rest =>
      cases event with
      | note r =>
          cases hnext
          exact ⟨⟨n, hn, hresult⟩, hserves⟩
      | claim =>
          cases hnext
          exact ⟨⟨n, hn, hresult⟩, hserves.claim (List.mem_append_right _ hmem)⟩
      | release =>
          cases held with
          | zero => cases hn
          | succ held =>
              cases hnext
              exact ⟨⟨n, hn, hresult⟩, hserves.release⟩

end Task

/-- Something to set up. -/
inductive Job where
  | operator (plan : Plan) (arena : Arena)
  | model (p : Parameters) (inShape : Shape)

/-- The set-up at its start. All that it does to the engine follows from
the arena and the handle, never from what others do meanwhile. -/
def Job.task (handle : Handle) : Job → Task
  | operator plan arena =>
    let (outcome, bench) := (plan.bind handle).runFrom (Bench.ofArena arena)
    ⟨0, bench.events.toList, outcome.toOption.map .operator⟩
  | model p inShape =>
    let (outcome, events) := Model.setup p inShape handle
    ⟨0, events.toList, outcome.toOption.map .model⟩

/-- The handles of primitives that were claimed with one. -/
theorem Claimed.map_handle {handle : Handle} {ps : List Primitive} {m : Nat}
    (h : Claimed handle ps 0 m) :
    ps.map Primitive.handle = List.replicate m handle := by
  obtain ⟨hm, hhandles⟩ := h
  rw [List.eq_replicate_iff]
  refine ⟨by rw [List.length_map, hm, Nat.zero_add], ?_⟩
  exact List.forall_mem_map.2 hhandles

/-- A set-up that tallies comes out even. -/
theorem Task.sound_of_tallies {α : Type} {step : Binding α}
    {result : α → Fixture} {handle : Handle} {b : Bench} (hb : b.events = #[])
    (h : Tallies step 0
      (fun x m => (result x).handles = List.replicate m handle) (· = 0)) :
    Task.Sound handle ⟨0, (step.runFrom b).2.events.toList,
      (step.runFrom b).1.toOption.map result⟩ := by
  cases hrun : step b with
  | ok x after =>
      rw [Step.runFrom_eq_ok_iff.2 hrun]
      obtain ⟨added, m, hadded, hm, hresult⟩ := h.ok b after x hrun
      rw [hb] at hadded
      refine ⟨m, hadded ▸ hm, ?_⟩
      show [result x].flatMap Fixture.handles = _
      rw [List.flatMap_singleton, hresult]
  | error e after =>
      rw [Step.runFrom_eq_error_iff.2 hrun]
      obtain ⟨added, m, hadded, hm, hzero⟩ := h.error b after e hrun
      rw [hb] at hadded
      exact ⟨m, hadded ▸ hm, by rw [hzero]; rfl⟩

/-- A set-up that has not begun holds nothing. -/
theorem Job.held_task (job : Job) (handle : Handle) :
    (job.task handle).held = 0 := by
  cases job with
  | operator plan arena => rfl
  | model p inShape => rfl

/-- Every set-up comes out even. -/
theorem Job.task_sound (job : Job) (handle : Handle) :
    (job.task handle).Sound handle := by
  cases job with
  | operator plan arena =>
      apply Task.sound_of_tallies rfl
      exact (plan.bind_tallies (E := (· = 0)) rfl).weaken fun o m hm =>
        hm.map_handle
  | model p inShape =>
      have htallies (arena : Arena) : Tallies (Network.setup p inShape handle) 0
          (fun network m => (Fixture.model ⟨network, arena⟩).handles
            = List.replicate m handle)
          (· = 0) := by
        refine (Network.setup_tallies (E := (· = 0)) rfl).weaken
          fun network m hm => ?_
        obtain ⟨hhandle, k, hk, rfl⟩ := hm
        show network.primitives.map Primitive.handle ++ [network.handle] = _
        rw [hk.map_handle, hhandle, List.replicate_succ']
      rcases hrun : (Network.setup p inShape handle).runFrom
        (Bench.ofArena Arena.empty) with ⟨outcome, after⟩
      have hsound := Task.sound_of_tallies (b := Bench.ofArena Arena.empty) rfl
        (htallies after.arena)
      rw [hrun] at hsound
      simp only [Job.task, Model.setup, hrun]
      cases outcome with
      | error e => exact hsound
      | ok network => exact hsound

/-- Someone who uses the engine. -/
inductive Party where
  /-- A handle, and the set-ups that it is lent to. -/
  | handle (h : Handle) (tasks : List Task)
  | fixture (f : Fixture)
  /-- The handles of something that is being dropped. -/
  | leaving (handles : List Handle)

namespace Party

/-- The live handles of a party. -/
def handles : Party → List Handle
  | handle h tasks => h :: tasks.flatMap fun t => List.replicate t.held h
  | fixture f => f.handles
  | leaving handles => handles

section

variable {h : Handle} {tasks : List Task} {j : Nat} {t : Task}

/-- The handles of one set-up apart from the others. -/
theorem perm_handles_eraseIdx (htask : tasks[j]? = some t) :
    (handle h tasks).handles.Perm
      (List.replicate t.held h ++ (handle h (tasks.eraseIdx j)).handles) :=
  ((perm_flatMap_eraseIdx htask).cons h).trans List.perm_middle.symm

theorem perm_handles_set (htask : tasks[j]? = some t) (next : Task) :
    (handle h (tasks.set j next)).handles.Perm
      (List.replicate next.held h ++ (handle h (tasks.eraseIdx j)).handles) :=
  ((perm_flatMap_set htask next).cons h).trans List.perm_middle.symm

/-- A set-up at its start has none. -/
theorem handles_start (job : Job) :
    (handle h (tasks ++ [job.task h])).handles = (handle h tasks).handles := by
  rw [handles, handles, List.flatMap_append, List.flatMap_singleton,
    job.held_task, List.replicate_zero, List.append_nil]

end

/-- How many handles a party holds. -/
def users : Party → Nat
  | handle _ tasks => 1 + (tasks.map Task.held).sum
  | fixture f => f.users
  | leaving handles => handles.length

/-- A party holds as many as it counts. -/
theorem length_handles (p : Party) : p.handles.length = p.users := by
  cases p with
  | handle h tasks =>
      rw [handles, users, List.length_cons, List.length_flatMap, Nat.add_comm]
      simp only [List.length_replicate]
  | fixture f => exact f.length_handles
  | leaving handles => rfl

/-- What can be dropped: a handle that is not lent, and what is bound. -/
def dropped? : Party → Option (List Handle)
  | handle h [] => some [h]
  | handle _ (_ :: _) => none
  | fixture f => some f.handles
  | leaving _ => none

/-- What is dropped releases what it held. -/
theorem handles_of_dropped? {p : Party} {hs : List Handle}
    (h : p.dropped? = some hs) :
    p.handles = hs := by
  cases p with
  | handle x tasks =>
      cases tasks with
      | nil =>
          cases h
          rfl
      | cons t rest => cases h
  | fixture f =>
      cases h
      rfl
  | leaving handles => cases h

/-- What each of its set-ups has left to tell comes out even. -/
def Sound : Party → Prop
  | handle h tasks => ∀ t ∈ tasks, t.Sound h
  | fixture _ => True
  | leaving _ => True

end Party

end FireNet
