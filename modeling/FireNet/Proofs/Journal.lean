/-
Reported procedures over a state, run. A run starts from a journal and a
state and ends in an outcome, a journal and a state; each lemma runs one
way of putting procedures together. A failure keeps what was reported and
done before it.
-/
import FireNet.Journal

set_option autoImplicit false

namespace FireNet

variable {σ α β : Type}

theorem run_bind {x : StateM σ α} {f : α → StateM σ β} {s s' : σ} {a : α}
    (h : x s = (a, s')) : (x >>= f) s = f a s' := by
  show (x s >>= fun r => f r.1 r.2) = _
  rw [h]
  rfl

/-- A reporting procedure, run. -/
def Reporting.exec (x : Reporting (StateM σ) α) (j : Journal) (s : σ) :
    α × Journal × σ :=
  let ((a, j), s) := (x.run j).run s
  (a, j, s)

/-- A procedure that may fail, run. -/
def Reported.exec (x : Reported (StateM σ) α) (j : Journal) (s : σ) :
    Outcome α × Journal × σ :=
  Reporting.exec x.run j s

namespace Reporting

theorem exec_pure {a : α} {j : Journal} {s : σ} :
    exec (pure a : Reporting (StateM σ) α) j s = (a, j, s) := rfl

/-- One reported task after another. -/
theorem exec_bind {x : Reporting (StateM σ) α} {f : α → Reporting (StateM σ) β}
    {j j' : Journal} {s s' : σ} {a : α} (h : exec x j s = (a, j', s')) :
    exec (x >>= f) j s = exec (f a) j' s' := by
  rcases hx : (x.run j).run s with ⟨⟨a₁, j₁⟩, s₁⟩
  rw [exec, hx] at h
  cases h
  show exec _ j s = _
  simp only [exec, StateT.run_bind]
  rw [hx]
  rfl

theorem exec_report {level : Level} {text : String} {j : Journal} {s : σ} :
    exec (report level text : Reporting (StateM σ) Unit) j s
      = ((), j.push ⟨level, text⟩, s) :=
  rfl

/-- A step of the state alone. -/
theorem exec_lift {x : StateM σ α} {j : Journal} {s s' : σ} {a : α}
    (h : x.run s = (a, s')) :
    exec (StateT.lift x : Reporting (StateM σ) α) j s = (a, j, s') := by
  show (let ((a, j), s) := (x >>= fun a => pure (a, j)).run s; (a, j, s)) = _
  rw [StateT.run_bind, h]
  rfl

end Reporting

namespace Reported

variable {x : Reported (StateM σ) α} {f : α → Reported (StateM σ) β}
  {j j' : Journal} {s s' : σ}

theorem exec_pure {a : α} :
    exec (pure a : Reported (StateM σ) α) j s = (.ok a, j, s) := rfl

theorem exec_throw {e : Failure} :
    exec (throw e : Reported (StateM σ) α) j s = (.error e, j, s) := rfl

/-- A procedure goes on where the one before it succeeded. -/
theorem exec_bind_ok {a : α} (h : exec x j s = (.ok a, j', s')) :
    exec (x >>= f) j s = exec (f a) j' s' := by
  show Reporting.exec (x.run >>= ExceptT.bindCont f) j s = _
  rw [Reporting.exec_bind h]
  rfl

/-- It does not start when the one before it failed. -/
theorem exec_bind_error {e : Failure} (h : exec x j s = (.error e, j', s')) :
    exec (x >>= f) j s = (.error e, j', s') := by
  show Reporting.exec (x.run >>= ExceptT.bindCont f) j s = _
  rw [Reporting.exec_bind h]
  rfl

/-- What is done to a result at the end is done to the outcome. -/
theorem exec_bind_pure {g : α → β} {r : Outcome α}
    (h : exec x j s = (r, j', s')) :
    exec (do
      let a ← x
      pure (g a)) j s = (r.map g, j', s') := by
  cases r with
  | error e =>
      rw [exec_bind_error h]
      rfl
  | ok a =>
      rw [exec_bind_ok h]
      rfl

/-- A step that only reports never fails. -/
theorem exec_lift {y : Reporting (StateM σ) α} {a : α}
    (h : Reporting.exec y j s = (a, j', s')) :
    exec (liftM y : Reported (StateM σ) α) j s = (.ok a, j', s') := by
  show Reporting.exec
    (y >>= fun a => (pure (.ok a) : Reporting (StateM σ) (Outcome α))) j s = _
  rw [Reporting.exec_bind h]
  rfl

/-- A step of the state alone never fails. -/
theorem exec_liftState {y : StateM σ α} {a : α} (h : y s = (a, s')) :
    exec (liftM y : Reported (StateM σ) α) j s = (.ok a, j, s') :=
  exec_lift (Reporting.exec_lift h)

theorem exec_report {level : Level} {text : String} :
    exec (report level text : Reported (StateM σ) Unit) j s
      = (.ok (), j.push ⟨level, text⟩, s) := rfl

end Reported

end FireNet
