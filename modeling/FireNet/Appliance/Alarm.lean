/-
An alarm that writes a notice for every fire that is reported. Reports
that arrive before the notice is written count as one.

The thread that runs the alarm holds the lock except while it waits. Each
constructor of `AlarmAct` is one section under the lock: from the moment
that it is taken until the thread waits or returns.
-/
import FireNet.Journal

set_option autoImplicit false

namespace FireNet

/-- Where the thread that runs the alarm is. -/
inductive AlarmPhase where
  | idle
  /-- Waiting for a report or for the time to look again. -/
  | waiting
  deriving DecidableEq

structure LogAlarm where
  /-- Whether a report waits for its notice. -/
  onFire : Bool
  closing : Bool
  delivered : Nat
  phase : AlarmPhase
  deriving DecidableEq

/-- What can happen to an alarm, one locked section each. -/
inductive AlarmAct where
  | start
  /-- The wait ends, whatever ended it. -/
  | wake
  | reportFire
  | close
  deriving DecidableEq

namespace LogAlarm

def fresh : LogAlarm := ⟨false, false, 0, .idle⟩

/-- The notice of a fire. -/
def notice : Record :=
  ⟨.warn, "Oh no, the house is on fire!! Do something NOW!!"⟩

def deliver (a : LogAlarm) : LogAlarm × List Record :=
  if a.onFire then
    ({ a with onFire := false, delivered := a.delivered + 1 }, [notice])
  else (a, [])

/-- Waits, or returns when the alarm is closing. -/
def settle (a : LogAlarm) : LogAlarm × List Record :=
  if a.closing then ({ a with phase := .idle }, [⟨.debug, "log alarm stopped"⟩])
  else ({ a with phase := .waiting }, [])

/-- Takes in a report. -/
def reported (a : LogAlarm) : LogAlarm := { a with onFire := true }

/-- One step, with what it reports; `none` when the thread is elsewhere. A
run that begins on a closing alarm returns before it looks for reports. -/
def step (a : LogAlarm) : AlarmAct → Option (LogAlarm × List Record)
  | .start =>
    match a.phase with
    | .idle =>
      let (a, said) := if a.closing then (a, []) else a.deliver
      let (a, more) := a.settle
      some (a, said ++ more)
    | .waiting => none
  | .wake =>
    match a.phase with
    | .waiting =>
      let (a, said) := a.deliver
      let (a, more) := a.settle
      some (a, said ++ more)
    | .idle => none
  | .reportFire => some (a.reported, [])
  | .close => some ({ a with closing := true }, [])

end LogAlarm

end FireNet
