/-
Hosted procedures, run in a world: a host, a journal and a disk. Each
lemma runs one way of putting procedures together, or one procedure that
works on the host. A failure keeps what was done to the world before it.

Only `replay`, `acquire` and `release` touch the engine, and nothing here
touches the environment.
-/
import FireNet.Host
import FireNet.Proofs.Journal

set_option autoImplicit false

namespace FireNet

variable {σ α β : Type}

/-- What a hosted procedure runs in. -/
structure World (σ : Type) where
  host : Host
  journal : Journal
  disk : σ

/-- The world with another engine, and reports added. -/
def World.engaged (w : World σ) (engine : Engine) (said : Journal) : World σ :=
  ⟨⟨engine, w.host.environment⟩, w.journal ++ said, w.disk⟩

namespace Hosted

/-- A hosted procedure, run. -/
def exec (x : Hosted (StateM σ) α) (w : World σ) : Outcome α × World σ :=
  let ((outcome, host), journal, disk) :=
    Reporting.exec (x.run.run w.host) w.journal w.disk
  (outcome, ⟨host, journal, disk⟩)

variable {x : Hosted (StateM σ) α} {f : α → Hosted (StateM σ) β}
  {w w' : World σ}

-- ========================================================= combinators

theorem exec_ofOutcome {outcome : Outcome α} :
    exec (ofOutcome outcome : Hosted (StateM σ) α) w = (outcome, w) := rfl

/-- What runs first, run as a procedure of its own. -/
theorem exec_bind : exec (x >>= f) w
    = match exec x w with
      | (.ok a, w') => exec (f a) w'
      | (.error e, w') => (.error e, w') := by
  rcases hx : Reporting.exec (x.run.run w.host) w.journal w.disk with
    ⟨⟨outcome, host⟩, journal, disk⟩
  unfold exec
  show (let ((outcome, host), journal, disk) :=
      Reporting.exec ((x.run >>= ExceptT.bindCont f).run w.host)
          w.journal w.disk
    (outcome, (⟨host, journal, disk⟩ : World σ))) = _
  rw [StateT.run_bind, Reporting.exec_bind hx, hx]
  cases outcome with
  | error e => rfl
  | ok a => rfl

/-- A procedure goes on where the one before it succeeded. -/
theorem exec_bind_ok {a : α} (h : exec x w = (.ok a, w')) :
    exec (x >>= f) w = exec (f a) w' := by
  rw [exec_bind, h]

/-- It does not start when the one before it failed. -/
theorem exec_bind_error {e : Failure} (h : exec x w = (.error e, w')) :
    exec (x >>= f) w = (.error e, w') := by
  rw [exec_bind, h]

/-- A procedure succeeds by both parts, the second in the world of the
first. -/
theorem exec_bind_eq_ok_iff {b : β} :
    exec (x >>= f) w = (.ok b, w')
      ↔ ∃ a w₁, exec x w = (.ok a, w₁) ∧ exec (f a) w₁ = (.ok b, w') := by
  rw [exec_bind]
  rcases hx : exec x w with ⟨outcome, w₁⟩
  cases outcome with
  | error e => simp
  | ok a =>
      constructor
      · intro h
        exact ⟨a, w₁, rfl, h⟩
      · intro hall
        obtain ⟨a', w₂, heq, h⟩ := hall
        cases heq
        exact h

/-- A failure taken as a value. -/
theorem exec_lift_run {outcome : Outcome α} (h : exec x w = (outcome, w')) :
    exec (ExceptT.lift x.run) w = (.ok outcome, w') := by
  unfold exec at h
  rcases hx : Reporting.exec (x.run.run w.host) w.journal w.disk with
    ⟨⟨outcome', host⟩, journal, disk⟩
  rw [hx] at h
  cases h
  unfold exec
  show (let ((outcome, host), journal, disk) :=
      Reporting.exec ((x.run >>= fun a =>
        pure (Except.ok a : Outcome (Outcome α))).run w.host) w.journal w.disk
    (outcome, (⟨host, journal, disk⟩ : World σ))) = _
  rw [StateT.run_bind, Reporting.exec_bind hx]
  rfl

theorem exec_report {level : Level} {text : String} :
    exec (report level text : Hosted (StateM σ) Unit) w
      = (.ok (), { w with journal := w.journal.push ⟨level, text⟩ }) := rfl

/-- A procedure that needs no host leaves it alone. -/
theorem exec_ofReported {y : Reported (StateM σ) α} {outcome : Outcome α}
    {j : Journal} {s : σ} (h : y.exec w.journal w.disk = (outcome, j, s)) :
    exec (ofReported y) w = (outcome, ⟨w.host, j, s⟩) := by
  have hrun : Reporting.exec ((ofReported y).run.run w.host) w.journal w.disk
      = ((outcome, w.host), j, s) := by
    show Reporting.exec (y.run >>= fun a => pure (a, w.host)) _ _ = _
    rw [Reporting.exec_bind h]
    rfl
  rw [exec, hrun]

-- ============================================================== engine

/-- A handle names the backend that the engine runs on, and one that starts
the engine the backend of its own preference. -/
theorem acquire_handle (e : Engine) (preference : Preference) :
    (e.acquire preference).1
      = ⟨e.backend.getD (preference.backend e.offered)⟩ := by
  unfold Engine.acquire
  cases e.backend with
  | none => rfl
  | some backend => rfl

theorem exec_acquire {p : Preference} :
    exec (acquire p : Hosted (StateM σ) Handle) w
      = (.ok (w.host.engine.acquire p).1,
          w.engaged (w.host.engine.acquire p).2.1
            (w.host.engine.acquire p).2.2.toArray) := rfl

theorem exec_release {n : Nat} :
    exec (release n : Hosted (StateM σ) Unit) w
      = (.ok (), w.engaged (w.host.engine.releaseMany n).1
          (w.host.engine.releaseMany n).2.toArray) := rfl

theorem exec_replay {events : Array Event} :
    exec (replay events : Hosted (StateM σ) Unit) w
      = (.ok (), w.engaged (w.host.engine.replay events).1
          (w.host.engine.replay events).2) := rfl

/-- A preference is stated by the environment, or is the configured one. -/
theorem exec_preference {configured : Preference} :
    exec (preference configured : Hosted (StateM σ) Preference) w
      = ((Preference.fromVariable w.host.environment.backend
        configured).mapError .error, w) := by
  unfold preference
  rw [exec_bind_ok (show exec (getThe Host : Hosted (StateM σ) Host) w
    = (.ok w.host, w) from rfl)]
  cases Preference.fromVariable w.host.environment.backend configured with
  | error e => rfl
  | ok p => rfl

/-- A procedure with a handle of its own ends as it does with the handle that
the engine gives. -/
theorem exec_withHandle (p : Preference) (task : Handle → Hosted (StateM σ) α)
    (w : World σ) :
    (exec (withHandle p task) w).1
      = (exec (task (w.host.engine.acquire p).1) (exec (acquire p) w).2).1 := by
  rcases htask : exec (task (w.host.engine.acquire p).1)
    (exec (acquire p) w).2 with ⟨outcome, w'⟩
  rw [exec_acquire] at htask
  unfold withHandle
  rw [exec_bind_ok exec_acquire, exec_bind_ok (exec_lift_run htask),
    exec_bind_ok exec_release]
  rfl

end Hosted

end FireNet
