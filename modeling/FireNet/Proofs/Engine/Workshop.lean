/-
The engine among all that use it, in any order. A workshop has one engine
and any number of parties. A handle can be lent to any number of set-ups at
once, and is not dropped while one of them lasts. Each locked section is a
move of its own, so the set-ups and the drops of different parties may
interleave in every way.

The invariant (`Counted`) says that the engine serves exactly the live
handles, and that every set-up in progress comes out even. Each move keeps
it, so every run does, and the count, the backend and the reports of all
handles are read off it.
-/
import FireNet.Proofs.Engine.Party

set_option autoImplicit false

namespace FireNet

-- ================================================================ moves

/-- The engine with all parties that ever were. -/
structure Workshop where
  engine : Engine
  parties : List Party

/-- One locked section, or the start or the end of something. The numbers
are those of a party and of a set-up that its handle is lent to. -/
inductive Move where
  | acquire (preference : Preference)
  | clone (party : Nat)
  | start (party : Nat) (job : Job)
  | advance (party task : Nat)
  | finish (party task : Nat)
  | drop (party : Nat)
  | release (party : Nat)

namespace Workshop

/-- Nobody there, on a machine whose best backend is `offered`. -/
def empty (offered : Backend) : Workshop := ⟨.idle offered, []⟩

/-- All handles, those of bound things and those on their way out included. -/
def handles (s : Workshop) : List Handle := s.parties.flatMap Party.handles

/-- The number of live handles. -/
def users (s : Workshop) : Nat := (s.parties.map Party.users).sum

/-- A handle that someone holds, with the set-ups that it is lent to. -/
def handle? (s : Workshop) (party : Nat) : Option (Handle × List Task) :=
  match s.parties[party]? with
  | some (.handle h tasks) => some (h, tasks)
  | _ => none

/-- One move, where it is possible. -/
def step (s : Workshop) : Move → Option Workshop
  | .acquire preference =>
    let (handle, engine, _) := s.engine.acquire preference
    some ⟨engine, s.parties ++ [.handle handle []]⟩
  | .clone i => do
    let (h, _) ← s.handle? i
    some ⟨s.engine.claim, s.parties ++ [.handle h []]⟩
  | .start i job => do
    let (h, tasks) ← s.handle? i
    some ⟨s.engine, s.parties.set i (.handle h (tasks ++ [job.task h]))⟩
  | .advance i j => do
    let (h, tasks) ← s.handle? i
    let (engine, task) ← (← tasks[j]?).advance? s.engine
    some ⟨engine, s.parties.set i (.handle h (tasks.set j task))⟩
  | .finish i j => do
    let (h, tasks) ← s.handle? i
    let task ← tasks[j]?
    if task.events.isEmpty then
      some ⟨s.engine, s.parties.set i (.handle h (tasks.eraseIdx j))
        ++ task.result.toList.map .fixture⟩
    else none
  | .drop i => do
    let handles ← (← s.parties[i]?).dropped?
    some ⟨s.engine, s.parties.set i (.leaving handles)⟩
  | .release i =>
    match s.parties[i]? with
    | some (.leaving (_ :: rest)) =>
      some ⟨s.engine.release.1, s.parties.set i (.leaving rest)⟩
    | _ => none

variable {s s' : Workshop} {i : Nat}

theorem handle?_eq_some_iff {h : Handle} {tasks : List Task} :
    s.handle? i = some (h, tasks) ↔ s.parties[i]? = some (.handle h tasks) := by
  unfold handle?
  split
  · next heq => simp [heq]
  · next hne =>
      constructor
      · intro h
        cases h
      · intro heq
        exact absurd heq (hne _ _)

/-- What a move can do. -/
inductive Steps (s : Workshop) : Move → Workshop → Prop where
  | acquire (preference : Preference) :
      Steps s (.acquire preference) ⟨(s.engine.acquire preference).2.1,
        s.parties ++ [.handle (s.engine.acquire preference).1 []]⟩
  | clone {i : Nat} {h : Handle} {tasks : List Task}
      (hparty : s.parties[i]? = some (.handle h tasks)) :
      Steps s (.clone i) ⟨s.engine.claim, s.parties ++ [.handle h []]⟩
  | start {i : Nat} {h : Handle} {tasks : List Task} (job : Job)
      (hparty : s.parties[i]? = some (.handle h tasks)) :
      Steps s (.start i job)
        ⟨s.engine, s.parties.set i (.handle h (tasks ++ [job.task h]))⟩
  | advance {i j : Nat} {h : Handle} {tasks : List Task} {task next : Task}
      {engine : Engine}
      (hparty : s.parties[i]? = some (.handle h tasks))
      (htask : tasks[j]? = some task)
      (hnext : task.advance? s.engine = some (engine, next)) :
      Steps s (.advance i j)
        ⟨engine, s.parties.set i (.handle h (tasks.set j next))⟩
  | finish {i j : Nat} {h : Handle} {tasks : List Task} {task : Task}
      (hparty : s.parties[i]? = some (.handle h tasks))
      (htask : tasks[j]? = some task)
      (hevents : task.events = []) :
      Steps s (.finish i j)
        ⟨s.engine, s.parties.set i (.handle h (tasks.eraseIdx j))
        ++ task.result.toList.map .fixture⟩
  | drop {i : Nat} {p : Party} {handles : List Handle}
      (hparty : s.parties[i]? = some p) (hdropped : p.dropped? = some handles) :
      Steps s (.drop i) ⟨s.engine, s.parties.set i (.leaving handles)⟩
  | release {i : Nat} {h : Handle} {rest : List Handle}
      (hparty : s.parties[i]? = some (.leaving (h :: rest))) :
      Steps s (.release i) ⟨s.engine.release.1, s.parties.set i (.leaving rest)⟩

/-- The ways a step can go. -/
theorem steps_of_step {move : Move} (hstep : s.step move = some s') :
    s.Steps move s' := by
  cases move with
  | acquire preference =>
      cases hstep
      exact .acquire preference
  | clone i =>
      simp only [step, Option.bind_eq_bind, Option.bind_eq_some_iff] at hstep
      obtain ⟨⟨h, tasks⟩, hhandle, hstep⟩ := hstep
      cases hstep
      exact .clone (handle?_eq_some_iff.1 hhandle)
  | start i job =>
      simp only [step, Option.bind_eq_bind, Option.bind_eq_some_iff] at hstep
      obtain ⟨⟨h, tasks⟩, hhandle, hstep⟩ := hstep
      cases hstep
      exact .start job (handle?_eq_some_iff.1 hhandle)
  | advance i j =>
      simp only [step, Option.bind_eq_bind, Option.bind_eq_some_iff] at hstep
      obtain ⟨⟨h, tasks⟩, hhandle, task, htask, ⟨engine, next⟩, hnext, hstep⟩ :=
        hstep
      cases hstep
      exact .advance (handle?_eq_some_iff.1 hhandle) htask hnext
  | finish i j =>
      simp only [step, Option.bind_eq_bind, Option.bind_eq_some_iff,
        Option.ite_none_right_eq_some, List.isEmpty_iff] at hstep
      obtain ⟨⟨h, tasks⟩, hhandle, task, htask, hevents, hstep⟩ := hstep
      cases hstep
      exact .finish (handle?_eq_some_iff.1 hhandle) htask hevents
  | drop i =>
      simp only [step, Option.bind_eq_bind, Option.bind_eq_some_iff] at hstep
      obtain ⟨party, hparty, handles, hdropped, hstep⟩ := hstep
      cases hstep
      exact .drop hparty hdropped
  | release i =>
      simp only [step] at hstep
      split at hstep
      · next hparty =>
          cases hstep
          exact .release hparty
      · cases hstep

/-- Move after move. -/
def run : Workshop → List Move → Option Workshop
  | s, [] => some s
  | s, move :: rest => do (← s.step move).run rest

/-- A set-up that nobody interrupts does to the engine what its replay
does. -/
theorem run_advance {h : Handle} {tasks : List Task} {held j : Nat}
    {events : List Event} {result : Option Fixture}
    (hparty : s.parties[i]? = some (.handle h tasks))
    (htask : tasks[j]? = some ⟨held, events, result⟩) :
    ∃ s', s.run (List.replicate events.length (.advance i j)) = some s'
      ∧ s'.engine = (s.engine.replay events.toArray).1 := by
  rw [Engine.replay_fst]
  induction events generalizing s tasks held with
  | nil => exact ⟨s, rfl, rfl⟩
  | cons event rest ih =>
      have hstep : s.step (.advance i j) = some ⟨event.act s.engine,
        s.parties.set i
          (.handle h (tasks.set j
            ⟨Task.heldAfter held event, rest, result⟩))⟩ := by
        simp only [step, handle?_eq_some_iff.2 hparty, htask,
          Option.bind_eq_bind, Option.bind_some]
        rfl
      obtain ⟨hi, -⟩ := List.getElem?_eq_some_iff.1 hparty
      obtain ⟨hj, -⟩ := List.getElem?_eq_some_iff.1 htask
      obtain ⟨s', hrun, hengine⟩ := ih
        (s := ⟨event.act s.engine, s.parties.set i (.handle h (tasks.set j _))⟩)
        (List.getElem?_set_self hi) (List.getElem?_set_self hj)
      exact ⟨s', Option.bind_eq_some_iff.2 ⟨_, hstep, hrun⟩, hengine⟩

-- ============================================================ invariant

/-- The engine serves the live handles, and every set-up in progress comes
out even. -/
structure Counted (s : Workshop) : Prop where
  serves : s.engine.Serves s.handles
  sound : ∀ p ∈ s.parties, p.Sound

/-- A workshop starts out counted. -/
theorem empty_counted (offered : Backend) : (empty offered).Counted :=
  ⟨Engine.idle_serves offered, fun _ h => by cases h⟩

/-- The other parties' handles. -/
def others (s : Workshop) (i : Nat) : List Handle :=
  (s.parties.eraseIdx i).flatMap Party.handles

/-- The handles of one party stand apart from those of the others. -/
theorem perm_handles {p : Party} (h : s.parties[i]? = some p) :
    s.handles.Perm (p.handles ++ s.others i) := perm_flatMap_eraseIdx h

/-- A party gives way to another one, and more may join. -/
theorem Counted.replace {p q : Party} {e : Engine} {joining : List Party}
    (h : s.Counted) (hp : s.parties[i]? = some p) (hq : q.Sound)
    (hjoining : ∀ x ∈ joining, x.Sound)
    (hserves : e.Serves
      (q.handles ++ s.others i ++ joining.flatMap Party.handles)) :
    (⟨e, s.parties.set i q ++ joining⟩ : Workshop).Counted := by
  constructor
  · refine hserves.perm ?_
    show List.Perm _ ((s.parties.set i q ++ joining).flatMap Party.handles)
    rw [List.flatMap_append]
    exact ((perm_flatMap_set hp q).append_right _).symm
  · intro x hx
    rcases List.mem_append.1 hx with hx | hx
    · rcases List.mem_or_eq_of_mem_set hx with hx | rfl
      · exact h.sound x hx
      · exact hq
    · exact hjoining x hx

/-- One party may be replaced when the engine serves what it then holds. -/
theorem Counted.set {p q : Party} {e : Engine} (h : s.Counted)
    (hp : s.parties[i]? = some p) (hq : q.Sound)
    (hserves : e.Serves (q.handles ++ s.others i)) :
    (⟨e, s.parties.set i q⟩ : Workshop).Counted := by
  have hall : (⟨e, s.parties.set i q ++ []⟩ : Workshop).Counted := by
    refine h.replace hp hq (fun _ hx => by cases hx) ?_
    rw [List.flatMap_nil, List.append_nil]
    exact hserves
  rw [List.append_nil] at hall
  exact hall

/-- A party joins. -/
theorem Counted.join {q : Party} {e : Engine} (h : s.Counted) (hq : q.Sound)
    (hserves : e.Serves (q.handles ++ s.handles)) :
    (⟨e, s.parties ++ [q]⟩ : Workshop).Counted := by
  refine ⟨hserves.perm ?_, List.forall_mem_append.2
    ⟨h.sound, List.forall_mem_singleton.2 hq⟩⟩
  show (q.handles ++ s.handles).Perm ((s.parties ++ [q]).flatMap Party.handles)
  rw [List.flatMap_append, List.flatMap_singleton]
  exact List.perm_append_comm

-- the moves one by one

variable {handle : Handle} {tasks : List Task} {j : Nat} {task : Task}

/-- A new handle is counted. -/
theorem Counted.acquire (h : s.Counted) (preference : Preference) :
    (⟨(s.engine.acquire preference).2.1,
      s.parties ++ [.handle (s.engine.acquire preference).1 []]⟩ :
        Workshop).Counted :=
  h.join (q := .handle _ []) (fun _ ht => by cases ht)
    (h.serves.acquire preference)

/-- A clone is counted. -/
theorem Counted.clone (h : s.Counted)
    (hparty : s.parties[i]? = some (.handle handle tasks)) :
    (⟨s.engine.claim, s.parties
      ++ [.handle handle []]⟩ : Workshop).Counted := by
  have hmem : handle ∈ s.handles :=
    (perm_handles hparty).mem_iff.2 List.mem_cons_self
  exact h.join (q := .handle handle []) (fun _ ht => by cases ht)
    (h.serves.claim hmem)

/-- A set-up that starts holds nothing yet. -/
theorem Counted.start (h : s.Counted)
    (hparty : s.parties[i]? = some (.handle handle tasks)) (job : Job) :
    (⟨s.engine, s.parties.set i (.handle handle (tasks ++ [job.task handle]))⟩
      : Workshop).Counted := by
  refine h.set hparty ?_ ?_
  · exact List.forall_mem_append.2 ⟨h.sound _ (List.mem_of_getElem? hparty),
      List.forall_mem_singleton.2 (job.task_sound handle)⟩
  · rw [Party.handles_start]
    exact h.serves.perm (perm_handles hparty)

/-- A set-up in progress comes out even, and the engine serves its handles
beside those of all others. -/
theorem Counted.lent (h : s.Counted)
    (hparty : s.parties[i]? = some (.handle handle tasks))
    (htask : tasks[j]? = some task) :
    task.Sound handle
      ∧ s.engine.Serves (List.replicate task.held handle
        ++ ((Party.handle handle (tasks.eraseIdx j)).handles
          ++ s.others i)) := by
  have htasks : ∀ t ∈ tasks, t.Sound handle :=
    h.sound _ (List.mem_of_getElem? hparty)
  have hserves := (h.serves.perm (perm_handles hparty)).perm
    ((Party.perm_handles_eraseIdx htask).append_right _)
  rw [List.append_assoc] at hserves
  exact ⟨htasks task (List.mem_of_getElem? htask), hserves⟩

/-- Its next event changes what it holds and what the engine counts alike. -/
theorem Counted.advance {engine : Engine} {next : Task} (h : s.Counted)
    (hparty : s.parties[i]? = some (.handle handle tasks))
    (htask : tasks[j]? = some task)
    (hnext : task.advance? s.engine = some (engine, next)) :
    (⟨engine, s.parties.set i (.handle handle (tasks.set j next))⟩ :
      Workshop).Counted := by
  obtain ⟨hsound, hserves⟩ := h.lent hparty htask
  obtain ⟨hsound', hserves'⟩ := hsound.advance hserves List.mem_cons_self hnext
  rw [← List.append_assoc] at hserves'
  refine h.set hparty (fun t ht => ?_)
    (hserves'.perm ((Party.perm_handles_set htask next).append_right _).symm)
  rcases List.mem_or_eq_of_mem_set ht with ht | rfl
  · exact h.sound _ (List.mem_of_getElem? hparty) t ht
  · exact hsound'

/-- What a set-up held, its result holds. -/
theorem Counted.finish (h : s.Counted)
    (hparty : s.parties[i]? = some (.handle handle tasks))
    (htask : tasks[j]? = some task) (hevents : task.events = []) :
    (⟨s.engine, s.parties.set i (.handle handle (tasks.eraseIdx j))
      ++ task.result.toList.map .fixture⟩ : Workshop).Counted := by
  obtain ⟨hsound, hserves⟩ := h.lent hparty htask
  have htasks : ∀ t ∈ tasks, t.Sound handle :=
    h.sound _ (List.mem_of_getElem? hparty)
  refine h.replace hparty (fun t ht => htasks t (List.mem_of_mem_eraseIdx ht))
    (List.forall_mem_map.2 fun _ _ => trivial) ?_
  rw [List.flatMap_map]
  show s.engine.Serves (_ ++ task.result.toList.flatMap Fixture.handles)
  rw [hsound.finished hevents]
  exact hserves.perm List.perm_append_comm

/-- A party that is dropped releases its handles one after another. -/
theorem Counted.drop {p : Party} {handles : List Handle} (h : s.Counted)
    (hparty : s.parties[i]? = some p) (hdropped : p.dropped? = some handles) :
    (⟨s.engine, s.parties.set i (.leaving handles)⟩ : Workshop).Counted := by
  refine h.set hparty trivial ?_
  show s.engine.Serves (handles ++ s.others i)
  rw [← Party.handles_of_dropped? hdropped]
  exact h.serves.perm (perm_handles hparty)

/-- Each of these releases is counted. -/
theorem Counted.release {rest : List Handle} (h : s.Counted)
    (hparty : s.parties[i]? = some (.leaving (handle :: rest))) :
    (⟨s.engine.release.1, s.parties.set i
      (.leaving rest)⟩ : Workshop).Counted := by
  refine h.set hparty trivial ?_
  exact (h.serves.perm (perm_handles hparty)).release

/-- One move keeps the count. -/
theorem Counted.step {move : Move} (h : s.Counted)
    (hstep : s.step move = some s') :
    s'.Counted := by
  cases steps_of_step hstep with
  | acquire preference => exact h.acquire preference
  | clone hparty => exact h.clone hparty
  | start job hparty => exact h.start hparty job
  | advance hparty htask hnext => exact h.advance hparty htask hnext
  | finish hparty htask hevents => exact h.finish hparty htask hevents
  | drop hparty hdropped => exact h.drop hparty hdropped
  | release hparty => exact h.release hparty

/-- So a whole run is counted, by induction over its moves. -/
theorem Counted.run {moves : List Move} (h : s.Counted)
    (hrun : s.run moves = some s') :
    s'.Counted := by
  induction moves generalizing s with
  | nil =>
      cases hrun
      exact h
  | cons move rest ih =>
      obtain ⟨next, hstep, hrest⟩ := Option.bind_eq_some_iff.1 hrun
      exact ih (h.step hstep) hrest

-- ============================================================== backend

/-- No move changes what the machine offers. -/
theorem offered_of_step {move : Move} (hstep : s.step move = some s') :
    s'.engine.offered = s.engine.offered := by
  cases steps_of_step hstep with
  | acquire preference => exact s.engine.acquire_offered preference
  | clone hparty => rfl
  | start job hparty => rfl
  | advance hparty htask hnext =>
      obtain ⟨event, rfl⟩ := Task.advance?_engine hnext
      exact event.act_offered s.engine
  | finish hparty htask hevents => rfl
  | drop hparty hdropped => rfl
  | release hparty => exact s.engine.release_offered

/-- No run changes the machine. -/
theorem offered_of_run {moves : List Move} (hrun : s.run moves = some s') :
    s'.engine.offered = s.engine.offered := by
  induction moves generalizing s with
  | nil =>
      cases hrun
      rfl
  | cons move rest ih =>
      obtain ⟨next, hstep, hrest⟩ := Option.bind_eq_some_iff.1 hrun
      exact (ih hrest).trans (offered_of_step hstep)

/-- A move changes the backend by a teardown of the last user, or by the
first acquire, whose preference decides. -/
theorem Counted.backend {move : Move} (h : s.Counted)
    (hstep : s.step move = some s') :
    s'.engine.backend = s.engine.backend
      ∨ s'.engine = Engine.idle s.engine.offered
      ∨ s.engine = Engine.idle s.engine.offered ∧ ∃ preference,
        move = .acquire preference
        ∧ s'.engine.backend = some (preference.backend s.engine.offered) := by
  cases steps_of_step hstep with
  | acquire preference =>
      cases hbackend : s.engine.backend with
      | none =>
          obtain ⟨-, hengine⟩ := Engine.acquire_of_none preference hbackend
          exact .inr (.inr ⟨h.serves.eq_idle hbackend, preference, rfl,
            congrArg _ hengine⟩)
      | some backend =>
          obtain ⟨-, hengine⟩ := Engine.acquire_of_some preference hbackend
          exact .inl ((congrArg _ hengine).trans hbackend)
  | clone hparty => exact .inl rfl
  | start job hparty => exact .inl rfl
  | advance hparty htask hnext =>
      obtain ⟨event, rfl⟩ := Task.advance?_engine hnext
      cases event with
      | note r => exact .inl rfl
      | claim => exact .inl rfl
      | release => exact s.engine.release_backend.imp_right .inl
  | finish hparty htask hevents => exact .inl rfl
  | drop hparty hdropped => exact .inl rfl
  | release hparty => exact s.engine.release_backend.imp_right .inl

/-- So it is for many moves: where the backend is another one, the engine was
idle in between, and the preference of the acquire after that decided. -/
theorem Counted.backend_of_run {moves : List Move} (h : s.Counted)
    (hrun : s.run moves = some s') :
    s'.engine.backend = s.engine.backend
      ∨ s'.engine = Engine.idle s.engine.offered
      ∨ ∃ first preference last t, moves = first ++ .acquire preference :: last
        ∧ s.run first = some t ∧ t.engine = Engine.idle s.engine.offered
        ∧ s'.engine.backend = some (preference.backend s.engine.offered) := by
  induction moves generalizing s with
  | nil =>
      cases hrun
      exact .inl rfl
  | cons move rest ih =>
      obtain ⟨next, hstep, hrest⟩ := Option.bind_eq_some_iff.1 hrun
      have hall := ih (h.step hstep) hrest
      rw [offered_of_step hstep] at hall
      rcases hall with hsame | hidle | hlater
      · rcases h.backend hstep with hkept | hdown | hup
        · exact .inl (hsame.trans hkept)
        · have hstopped : s'.engine.backend = none := by
            rw [hsame, hdown, Engine.idle]
          have hidle := ((h.step hstep).run hrest).serves.eq_idle hstopped
          rw [offered_of_run hrun] at hidle
          exact .inr (.inl hidle)
        · obtain ⟨hidle, preference, rfl, hbackend⟩ := hup
          exact .inr (.inr ⟨[], preference, rest, s, rfl, rfl, hidle,
            hsame.trans hbackend⟩)
      · exact .inr (.inl hidle)
      · obtain ⟨first, preference, last, t, rfl, hfirst, ht, hbackend⟩ := hlater
        refine .inr (.inr ⟨move :: first, preference, last, t, rfl, ?_,
          ht, hbackend⟩)
        exact Option.bind_eq_some_iff.2 ⟨next, hstep, hfirst⟩

/-- A workshop holds as many handles as it counts. -/
theorem length_handles (s : Workshop) : s.handles.length = s.users := by
  rw [handles, users, List.length_flatMap]
  simp only [Party.length_handles]

/-- A handle names the scalar backend or the one that the machine offers, so
vector instructions run only where there are any. -/
theorem handle_offered {offered : Backend} {moves : List Move}
    (hrun : (empty offered).run moves = some s) {h : Handle}
    (hmem : h ∈ s.handles) :
    h.backend = .scalar ∨ h.backend = offered := by
  have hcounted := empty_counted offered
  have hreports := (hcounted.run hrun).serves.reports h hmem
  rcases hcounted.backend_of_run hrun with hsame | hidle | hlater
  · rw [hreports] at hsame
    cases hsame
  · rw [hidle] at hreports
    cases hreports
  · obtain ⟨-, preference, -, -, -, -, -, hbackend⟩ := hlater
    have hdecided : h.backend = preference.backend offered :=
      Option.some.inj (hreports.symm.trans hbackend)
    rw [hdecided]
    cases preference with
    | auto => exact .inr rfl
    | scalar => exact .inl rfl

/-- After any moves of any parties, on any machine, the engine counts the live
handles: one for each handle that someone holds, one for each bound
primitive, one more for a model, and for a set-up in progress as many as it
has claimed. It has a backend exactly when there is one, and each of them
reports it. However the moves go on, the backend becomes another one only
after the engine was idle, by the preference of an acquire. -/
theorem engine_counts {offered : Backend} {moves : List Move} {s : Workshop}
    (hrun : (empty offered).run moves = some s) :
    s.engine.users = s.handles.length ∧ s.handles.length = s.users
      ∧ (s.engine.backend.isSome = true ↔ 0 < s.engine.users)
      ∧ (∀ h ∈ s.handles, s.engine.backend = some h.backend)
      ∧ ∀ later s', s.run later = some s' →
          s'.engine.backend = s.engine.backend ∨ s'.engine = Engine.idle offered
            ∨ ∃ first preference last t,
              later = first ++ .acquire preference :: last
              ∧ s.run first = some t ∧ t.engine = Engine.idle offered
              ∧ s'.engine.backend = some (preference.backend offered) := by
  have h := (empty_counted offered).run hrun
  have hoffered : s.engine.offered = offered := offered_of_run hrun
  refine ⟨h.serves.users_eq, length_handles s, h.serves.isSome_backend_iff,
    h.serves.reports,
    fun _ _ hlater => ?_⟩
  have hbackend := h.backend_of_run hlater
  rwa [hoffered] at hbackend

/-- A max pool is bound with a lent handle, keeps the engine when the handle
is dropped, and is dropped itself; the next acquire decides anew. -/
theorem engine_counts_max_pool :
    ∃ (s s' : Workshop),
      (empty .vector).run [.acquire .scalar,
          .start 0 (.operator
            (.primitive "pool" (.maxPool (Window.square 3 2 1)) ⟨0⟩ ⟨1⟩)
            (Arena.empty.grow [⟨3, 3, 2⟩, ⟨2, 2, 2⟩])),
          .clone 0, .advance 0 0, .advance 0 0, .finish 0 0, .drop 0,
            .release 0] = some s
        ∧ s.users = 2 ∧ s.engine.users = s.handles.length
        ∧ s.run [.drop 1, .drop 2, .release 2, .release 1, .acquire .auto]
          = some s'
        ∧ s'.engine.backend = some .vector := by
  obtain ⟨s, s', hrun, husers, hlater, hbackend⟩ : ∃ (s s' : Workshop),
      (empty .vector).run [.acquire .scalar,
          .start 0 (.operator
            (.primitive "pool" (.maxPool (Window.square 3 2 1)) ⟨0⟩ ⟨1⟩)
            (Arena.empty.grow [⟨3, 3, 2⟩, ⟨2, 2, 2⟩])),
          .clone 0, .advance 0 0, .advance 0 0, .finish 0 0, .drop 0,
          .release 0] = some s
        ∧ s.users = 2
        ∧ s.run [.drop 1, .drop 2, .release 2, .release 1, .acquire .auto]
          = some s'
        ∧ s'.engine.backend = some .vector :=
    ⟨_, _, rfl, rfl, rfl, rfl⟩
  exact ⟨s, s', hrun, husers, (engine_counts hrun).1, hlater, hbackend⟩

end Workshop

end FireNet
