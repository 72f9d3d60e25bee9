/-
A temperature sensor for demonstrations. It goes through a short list of
readings again and again, one at the end of each period, and hands every
reading to the receiver that is installed at that moment.

The sensor is shared between the thread that runs it and everybody who
installs receivers or closes it, also from inside a receiver. Each
constructor of `SensorAct` is one section under the lock; the receiver is
called between two of them, while the lock is free.
-/
import FireNet.Journal
import FireNet.Numeric.Single

set_option autoImplicit false

namespace FireNet

/-- The readings in degrees Celsius: 20, 22, 316, 18, 28. -/
def mockReadings : Vector Single 5 :=
  #v[⟨0x41a00000⟩, ⟨0x41b00000⟩, ⟨0x439e0000⟩, ⟨0x41900000⟩, ⟨0x41e00000⟩]

def mockReading (i : Nat) : Single :=
  mockReadings.get ⟨i % 5, Nat.mod_lt _ (by decide)⟩

/-- The usual length of a period, in milliseconds. -/
def standardPeriod : Nat := 500

/-- Where the thread that runs the sensor is; `R` is what receivers are. -/
inductive SensorPhase (R : Type) where
  | idle
  /-- In a period, so many readings consumed. -/
  | sleeping (consumed : Nat)
  /-- In a receiver, with the reading that it was given. -/
  | calling (consumed : Nat) (receiver : R) (reading : Single)
  deriving DecidableEq

structure MockSensor (R : Type) where
  closing : Bool
  receiver : Option R
  phase : SensorPhase R
  deriving DecidableEq

/-- What can happen to a sensor, one locked section each. -/
inductive SensorAct (R : Type) where
  | start
  /-- The period ends: its time is over, or the sensor is closing. -/
  | wake
  | returned
  | install (receiver : R)
  | close
  deriving DecidableEq

namespace MockSensor

variable {R : Type}

def fresh : MockSensor R := ⟨false, none, .idle⟩

/-- One step, with what it reports; `none` when the thread is elsewhere. -/
def step (s : MockSensor R) : SensorAct R → Option (MockSensor R × List Record)
  | .start =>
    match s.phase with
    | .idle => some ({ s with phase := .sleeping 0 }, [])
    | _ => none
  | .wake =>
    match s.phase with
    | .sleeping n =>
      if s.closing then
        some ({ s with phase := .idle },
          [⟨.debug, "mock temperature sensor stopped"⟩])
      else
        match s.receiver with
        | none => some ({ s with phase := .sleeping (n + 1) }, [])
        | some r =>
          some ({ s with phase := .calling (n + 1) r (mockReading n) }, [])
    | _ => none
  | .returned =>
    match s.phase with
    | .calling n _ _ => some ({ s with phase := .sleeping n }, [])
    | _ => none
  | .install r => some ({ s with receiver := some r }, [])
  | .close => some ({ s with closing := true }, [])

end MockSensor

end FireNet
