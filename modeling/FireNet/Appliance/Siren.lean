/-
The appliance as it is wired for the demonstration: the sensor hands its
readings to the detector, the detector reports to the alarm, sensor and
alarm each run in a thread of their own, and the main thread closes both
and waits for them to return.

A `Siren` is a state of all three threads, and a `SirenAct` one step of one
of them. `demonstration` is a schedule without surprises.
-/
import FireNet.Appliance.Alarm
import FireNet.Appliance.Detector
import FireNet.Appliance.Sensor

set_option autoImplicit false

namespace FireNet

/-- How far the main thread is. -/
inductive MainPhase where
  | running
  | sensorClosed
  | bothClosed
  /-- Both threads have returned. -/
  | finished
  deriving DecidableEq

/-- The state of the appliance; the detector is the only receiver. -/
structure Siren where
  sensor : MockSensor Unit
  alarm : LogAlarm
  threshold : Single
  main : MainPhase
  deriving DecidableEq

inductive SirenAct where
  | startAlarm
  | startSensor
  /-- A period of the sensor ends. -/
  | wakeSensor
  /-- The detector takes in the reading that the sensor hands over. -/
  | detect
  | wakeAlarm
  | closeSensor
  | closeAlarm
  /-- The main thread has seen both others return. -/
  | join
  deriving DecidableEq

namespace Siren

def fresh (threshold : Single) : Siren :=
  ⟨{ (MockSensor.fresh : MockSensor Unit) with receiver := some () },
    LogAlarm.fresh, threshold, .running⟩

def onSensor (s : Siren) (act : SensorAct Unit) :
    Option (Siren × List Record) := do
  let (sensor, said) ← s.sensor.step act
  some ({ s with sensor := sensor }, said)

def onAlarm (s : Siren) (act : AlarmAct) : Option (Siren × List Record) := do
  let (alarm, said) ← s.alarm.step act
  some ({ s with alarm := alarm }, said)

/-- The detector of the appliance, which never sees a frame. -/
def detector (threshold : Single) : Detector (StateM LogAlarm) where
  process _ := throw (.error (.config "classifier" .notReady))
  reportFire := modifyThe LogAlarm LogAlarm.reported
  threshold := threshold

/-- One step, with what it reports; `none` when the thread is elsewhere. -/
def step (s : Siren) : SirenAct → Option (Siren × List Record)
  | .startAlarm => s.onAlarm .start
  | .startSensor => s.onSensor .start
  | .wakeSensor => s.onSensor .wake
  | .detect =>
    match s.sensor.phase with
    | .calling _ () reading => do
      let (((), said), alarm) :=
        ((detector s.threshold).celsiusReceiver reading).run #[] |>.run s.alarm
      let (s, _) ← { s with alarm := alarm }.onSensor .returned
      some (s, said.toList)
    | _ => none
  | .wakeAlarm => s.onAlarm .wake
  | .closeSensor =>
    if s.main = .running then do
      let (s, said) ← s.onSensor .close
      some ({ s with main := .sensorClosed }, said)
    else none
  | .closeAlarm =>
    if s.main = .sensorClosed then do
      let (s, said) ← s.onAlarm .close
      some ({ s with main := .bothClosed }, said)
    else none
  | .join =>
    if s.main = .bothClosed ∧ s.sensor.phase = .idle
      ∧ s.alarm.phase = .idle then
      some ({ s with main := .finished }, [])
    else none

/-- Several steps; `none` when one of them cannot be taken. -/
def run (s : Siren) : List SirenAct → Option (Siren × List Record)
  | [] => some (s, [])
  | act :: rest => do
    let (s, said) ← s.step act
    let (s, more) ← s.run rest
    some (s, said ++ more)

/-- A schedule of so many periods, in which every thread runs as soon as
there is something for it to do. -/
def demonstration (periods : Nat) : List SirenAct :=
  [.startAlarm, .startSensor] ++
    (List.replicate periods [.wakeSensor, .detect, .wakeAlarm]).flatten ++
    [.closeSensor, .closeAlarm, .wakeSensor, .wakeAlarm, .join]

end Siren

end FireNet
