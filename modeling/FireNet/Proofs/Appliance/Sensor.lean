/-
What a sensor hands out, over all orders in which its runs, installs and
closings can come. A run is somewhere of its own; what the lock guards, the
closing flag and the receiver, is shared by all runs and by everybody else.
A receiver is called between two locked sections of its run, so it can
itself install a receiver, close the sensor or start another run, and so
can anyone while it is called.

The number of readings that a run has consumed is the invariant. It says
which reading is next, only a period that ends on an open sensor moves it,
and it does so whether or not there is a receiver. The flag is never taken
back, so after a close no period moves it, and a run that is started then
is over at its first step.
-/
import FireNet.Appliance.Sensor
import FireNet.Proofs.Appliance.Schedule
import Mathlib.Data.List.Basic
import Mathlib.Logic.Function.Basic

set_option autoImplicit false

namespace FireNet

/-- One sensor and its runs, by number, each wherever it is. -/
structure SharedSensor (R : Type) where
  closing : Bool
  receiver : Option R
  phases : Nat → SensorPhase R

namespace SharedSensor

variable {R β : Type} {s s' m : SharedSensor R} {i j n : Nat}
  {move : Nat × SensorAct R} {moves later inside : List (Nat × SensorAct R)}
  {said more : List Record}

-- ================================================================ moves

/-- A sensor that nobody uses yet. -/
def fresh : SharedSensor R := ⟨false, none, fun _ => .idle⟩

/-- The sensor as one of its runs has it. -/
def view (s : SharedSensor R) (i : Nat) : MockSensor R :=
  ⟨s.closing, s.receiver, s.phases i⟩

/-- One thread in another phase. -/
def enter (s : SharedSensor R) (i : Nat) (phase : SensorPhase R) :
    SharedSensor R :=
  { s with phases := Function.update s.phases i phase }

/-- A locked section of a run, or of what its receiver does. That others
install or close is a move of whichever run, for it changes none of them. -/
def step (s : SharedSensor R) (move : Nat × SensorAct R) :
    Option (SharedSensor R × List Record) := do
  let (sensor, said) ← (s.view move.1).step move.2
  some (⟨sensor.closing, sensor.receiver,
    Function.update s.phases move.1 sensor.phase⟩, said)

/-- What a move can do. -/
inductive Steps (s : SharedSensor R) :
    Nat × SensorAct R → SharedSensor R → Prop where
  | started {i : Nat} (hphase : s.phases i = .idle) :
      Steps s (i, .start) (s.enter i (.sleeping 0))
  | stopped {i n : Nat} (hphase : s.phases i = .sleeping n)
      (hclosing : s.closing = true) :
      Steps s (i, .wake) (s.enter i .idle)
  /-- A reading is consumed, and nobody gets it. -/
  | passed {i n : Nat} (hphase : s.phases i = .sleeping n)
      (hopen : s.closing = false) (hnone : s.receiver = none) :
      Steps s (i, .wake) (s.enter i (.sleeping (n + 1)))
  | called {i n : Nat} {r : R} (hphase : s.phases i = .sleeping n)
      (hopen : s.closing = false) (hsome : s.receiver = some r) :
      Steps s (i, .wake) (s.enter i (.calling (n + 1) r (mockReading n)))
  | returned {i n : Nat} {r : R} {reading : Single}
      (hphase : s.phases i = .calling n r reading) :
      Steps s (i, .returned) (s.enter i (.sleeping n))
  | installed {i : Nat} {r : R} :
      Steps s (i, .install r) { s with receiver := some r }
  | closed {i : Nat} : Steps s (i, .close) { s with closing := true }

/-- The ways a step can go. -/
theorem steps_of_step (h : s.step move = some (s', said)) :
    s.Steps move s' := by
  obtain ⟨closing, receiver, phases⟩ := s
  obtain ⟨i, act⟩ := move
  obtain ⟨⟨sensor, _⟩, hstep, heq⟩ := Option.bind_eq_some_iff.1 h
  cases heq
  simp only [view, MockSensor.step] at hstep
  cases act with
  | start =>
      cases hphase : phases i with
      | idle =>
          simp only [hphase] at hstep
          cases hstep
          exact .started hphase
      | sleeping n => simp [hphase] at hstep
      | calling n r reading => simp [hphase] at hstep
  | wake =>
      cases hphase : phases i with
      | idle => simp [hphase] at hstep
      | calling n r reading => simp [hphase] at hstep
      | sleeping n =>
          simp only [hphase] at hstep
          cases closing with
          | true =>
              cases hstep
              exact .stopped hphase rfl
          | false =>
              cases receiver with
              | none =>
                  cases hstep
                  exact .passed hphase rfl rfl
              | some r =>
                  cases hstep
                  exact .called hphase rfl rfl
  | returned =>
      cases hphase : phases i with
      | idle => simp [hphase] at hstep
      | sleeping n => simp [hphase] at hstep
      | calling n r reading =>
          simp only [hphase] at hstep
          cases hstep
          exact .returned hphase
  | install r =>
      cases hstep
      simp only [Function.update_eq_self]
      exact .installed
  | close =>
      cases hstep
      simp only [Function.update_eq_self]
      exact .closed

-- ================================================================= runs

/-- Several moves, with what they report; `none` when one of them cannot be
made. -/
def run (s : SharedSensor R) :
    List (Nat × SensorAct R) → Option (SharedSensor R × List Record)
  | [] => some (s, [])
  | move :: rest => do
    let (s, said) ← s.step move
    let (s, more) ← s.run rest
    some (s, said ++ more)

/-- A run is step after step. -/
theorem runs : Runs (step (R := R)) run := ⟨fun _ => rfl, fun _ _ _ => rfl⟩

/-- A period of run `i` that ends without a close, with the receiver that is
installed at that moment. -/
def period (i : Nat) (s : SharedSensor R) (move : Nat × SensorAct R)
    (_ : SharedSensor R) : List (Option R) :=
  match move with
  | (j, .wake) => if j = i ∧ s.closing = false then [s.receiver] else []
  | _ => []

/-- A call that run `i` makes, with the reading that it hands over. -/
def call (i : Nat) (_ : SharedSensor R) (move : Nat × SensorAct R)
    (s' : SharedSensor R) : List (R × Single) :=
  match move with
  | (j, .wake) =>
    match s'.phases j with
    | .calling _ r reading => if j = i then [(r, reading)] else []
    | _ => []
  | _ => []

end SharedSensor

end FireNet
