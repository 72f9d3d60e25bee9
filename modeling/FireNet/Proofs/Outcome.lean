/-
Successful runs, read backwards and forwards: what it takes for an
outcome to be a value, and for a step to end in a value and a state.

Each lemma is an equivalence, so the same set opens a set-up that is known
to have succeeded and closes one that is to be shown to succeed. A check
(`if c then refuse …`) contributes the negation of its condition.
-/
import FireNet.Graph.Bench

set_option autoImplicit false

namespace FireNet

-- ============================================================= outcomes

namespace Outcome

variable {ε α β : Type}

/-- A bind succeeds by both parts. -/
@[simp] theorem bind_eq_ok_iff {x : Except ε α} {f : α → Except ε β} {b : β} :
    x >>= f = .ok b ↔ ∃ a, x = .ok a ∧ f a = .ok b := by
  cases x with
  | error e => simp [bind, Except.bind]
  | ok a => simp [bind, Except.bind]

/-- A row of steps fails with its first failure. -/
theorem bind_eq_error_iff {x : Except ε α} {f : α → Except ε β} {e : ε} :
    x >>= f = .error e ↔ x = .error e ∨ ∃ a, x = .ok a ∧ f a = .error e := by
  cases x with
  | error e => simp [bind, Except.bind]
  | ok a => simp [bind, Except.bind]

/-- A map succeeds where its argument does. -/
theorem exists_map_eq_ok_iff {f : α → β} {x : Except ε α} :
    (∃ b, x.map f = .ok b) ↔ ∃ a, x = .ok a := by
  cases x with
  | error e => simp [Except.map]
  | ok a => simp [Except.map]

theorem map_eq_error_iff {f : α → β} {x : Except ε α} {e : ε} :
    x.map f = .error e ↔ x = .error e := by
  cases x with
  | error e => simp [Except.map]
  | ok a => simp [Except.map]

@[simp] theorem ofOption_eq_ok_iff {x : Option α} {a : α} :
    ofOption x = .ok a ↔ x = some a := by
  cases x with
  | none => simp [ofOption]
  | some y => simp [ofOption]

theorem mapError_eq_ok_iff {δ : Type} {f : ε → δ} {x : Except ε α} {a : α} :
    x.mapError f = .ok a ↔ x = .ok a := by
  cases x with
  | error e => exact ⟨(fun h => by cases h), fun h => by cases h⟩
  | ok y =>
      show (.ok y : Except δ α) = .ok a ↔ (.ok y : Except ε α) = .ok a
      rw [Except.ok.injEq, Except.ok.injEq]

/-- A value is given as it is. -/
@[simp] theorem pure_eq_ok_iff {a b : α} :
    (pure a : Except ε α) = .ok b ↔ a = b := by
  simp [pure, Except.pure]

@[simp] theorem refuse_ne_ok {e : Error} {a : α} :
    (refuse e : Outcome α) = .ok a ↔ False := by
  simp [refuse, throw, throwThe, MonadExceptOf.throw]

/-- A check passes exactly when its condition fails. -/
@[simp] theorem guard_eq_ok_iff {c : Prop} [Decidable c] {e : Error}
    {f : α → Outcome β} {x : Outcome β} {b : β} :
    (if c then refuse e >>= f else x) = .ok b ↔ ¬c ∧ x = .ok b := by
  by_cases h : c
  · simp [h, refuse, throw, throwThe, MonadExceptOf.throw, bind, Except.bind]
  · simp [h]

/-- The last check of a row. -/
@[simp] theorem lastGuard_eq_ok_iff {c : Prop} [Decidable c] {e : Error}
    {u : Unit} :
    (if c then refuse e else pure () : Outcome Unit) = .ok u ↔ ¬c := by
  by_cases h : c
  · simp [h, refuse_ne_ok]
  · simp [h, pure_eq_ok_iff]

end Outcome

-- ================================================================ steps

namespace Step

variable {σ α β : Type} {s s' : σ}

/-- A bind succeeds by both parts, the second from where the first came
out. -/
@[simp] theorem bind_eq_ok_iff {x : Step σ α} {f : α → Step σ β} {b : β} :
    (x >>= f) s = .ok b s' ↔ ∃ a t, x s = .ok a t ∧ f a t = .ok b s' := by
  simp only [bind, EStateM.bind]
  cases x s with
  | error e t => simp
  | ok a t =>
      constructor
      · intro h
        exact ⟨a, t, rfl, h⟩
      · intro hall
        obtain ⟨a', t', heq, h⟩ := hall
        cases heq
        exact h

/-- It fails by the first part, or by the second after the first. -/
theorem bind_eq_error_iff {x : Step σ α} {f : α → Step σ β} {e : Failure} :
    (x >>= f) s = .error e s' ↔ x s = .error e s' ∨ ∃ a t,
      x s = .ok a t ∧ f a t = .error e s' := by
  simp only [bind, EStateM.bind]
  cases x s with
  | error e' t => simp
  | ok a t =>
      constructor
      · intro h
        exact .inr ⟨a, t, rfl, h⟩
      · intro hall
        obtain h | ⟨a', t', heq, h⟩ := hall
        · cases h
        · cases heq
          exact h

@[simp] theorem pure_eq_ok_iff {a b : α} :
    (pure a : Step σ α) s = .ok b s' ↔ a = b ∧ s = s' := by
  simp [pure, EStateM.pure]

@[simp] theorem map_eq_ok_iff {f : α → β} {x : Step σ α} {b : β} :
    (f <$> x) s = .ok b s' ↔ ∃ a, x s = .ok a s' ∧ f a = b := by
  simp only [Functor.map, EStateM.map]
  cases x s with
  | error e t => simp
  | ok a t =>
      constructor
      · intro h
        cases h
        exact ⟨a, rfl, rfl⟩
      · intro hall
        obtain ⟨a', heq, rfl⟩ := hall
        cases heq
        rfl

@[simp] theorem get_eq_ok_iff {t : σ} :
    (get : Step σ σ) s = .ok t s' ↔ s = t ∧ s = s' := by
  show (.ok s s : EStateM.Result Failure σ σ) = .ok t s' ↔ _
  simp

@[simp] theorem ofOutcome_eq_ok_iff {x : Outcome α} {a : α} :
    ofOutcome x s = .ok a s' ↔ x = .ok a ∧ s = s' := by
  cases x with
  | error e => simp [ofOutcome]
  | ok y => simp [ofOutcome]

@[simp] theorem ofOption_eq_ok_iff {x : Option α} {a : α} :
    ofOption x s = .ok a s' ↔ x = some a ∧ s = s' := by
  rw [ofOption, ofOutcome_eq_ok_iff, Outcome.ofOption_eq_ok_iff]

@[simp] theorem refuse_ne_ok {e : Error} {a : α} :
    (refuse e : Step σ α) s = .ok a s' ↔ False := by
  show (.error (.error e) s : EStateM.Result Failure σ α) = .ok a s' ↔ _
  simp

/-- A check passes exactly when its condition fails. -/
@[simp] theorem guard_eq_ok_iff {c : Prop} [Decidable c] {e : Error}
    {f : α → Step σ β} {x : Step σ β} {b : β} :
    (if c then refuse e >>= f else x) s = .ok b s' ↔ ¬c ∧ x s = .ok b s' := by
  by_cases h : c
  · simp [h, bind_eq_ok_iff, refuse_ne_ok]
  · simp [h]

/-- The last check of a row. -/
@[simp] theorem lastGuard_eq_ok_iff {c : Prop} [Decidable c] {e : Error}
    {u : Unit} :
    (if c then refuse e else pure () : Step σ Unit) s = .ok u s'
      ↔ ¬c ∧ s = s' := by
  by_cases h : c
  · simp [h, refuse_ne_ok]
  · simp [h, pure_eq_ok_iff]

-- ========================================================== running on

variable {x : Step σ α} {f : α → Step σ β} {e : Failure}

/-- The second part goes on from the state of the first. -/
theorem bind_of_ok {a : α} {t : σ} (h : x s = .ok a t) :
    (x >>= f) s = f a t := by
  show EStateM.bind x f s = _
  simp only [EStateM.bind, h]

/-- A failure ends the run, and its state stays. -/
theorem bind_of_error {t : σ} (h : x s = .error e t) :
    (x >>= f) s = .error e t := by
  show EStateM.bind x f s = _
  simp only [EStateM.bind, h]

theorem get_bind {f : σ → Step σ β} : ((get : Step σ σ) >>= f) s = f s s := rfl

theorem set_bind {t : σ} {f : PUnit → Step σ β} :
    ((set t : Step σ PUnit) >>= f) s = f ⟨⟩ t := rfl

theorem some_bind {a : α} : (ofOption (some a) >>= f) s = f a s := rfl

theorem none_bind : ((ofOption none : Step σ α) >>= f) s = .error .fault s :=
  rfl

/-- A run with its state is the step itself. -/
theorem runFrom_eq_ok_iff {a : α} {t : σ} :
    x.runFrom s = (.ok a, t) ↔ x s = .ok a t := by
  unfold runFrom
  cases x s with
  | error e t => simp
  | ok a t => simp

theorem runFrom_eq_error_iff {t : σ} :
    x.runFrom s = (.error e, t) ↔ x s = .error e t := by
  unfold runFrom
  cases x s with
  | error e t => simp
  | ok a t => simp

/-- Success is told by the outcome alone. -/
theorem exists_eq_ok_iff :
    (∃ a t, x s = .ok a t) ↔ ∃ a, (x.runFrom s).1 = .ok a := by
  unfold runFrom
  cases x s with
  | error e t => simp
  | ok a t => simp

/-- A check that fails ends the step. -/
theorem guard_of_true {c : Prop} [Decidable c] {r : Error} {g : α → Step σ β}
    {y : Step σ β} (h : c) :
    (if c then refuse r >>= g else y) s = .error (.error r) s := by
  rw [if_pos h]
  rfl

end Step

end FireNet
