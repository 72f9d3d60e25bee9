/-
The host of a process: its engine and the environment variables that the
library reads. Hosted procedures run over a base monad with files, report
into the journal, and may fail; what they did to the engine before a
failure stays done.
-/
import FireNet.Graph.Bench

set_option autoImplicit false

namespace FireNet

/-- The environment variables that the library reads; `none` is unset. -/
structure Environment where
  /-- Overrides the configured backend; the bytes as the system holds them. -/
  backend : Option (List UInt8)
  /-- Overrides the configured directory of weights. -/
  modelPath : Option String

/-- The state that a process shares. -/
structure Host where
  engine : Engine
  environment : Environment

/-- A procedure on a host, over a base monad. -/
abbrev Hosted (m : Type → Type) (α : Type) :=
  ExceptT Failure (StateT Host (Reporting m)) α

namespace Hosted

variable {m : Type → Type} [Monad m] {α : Type}

def ofOutcome (outcome : Outcome α) : Hosted m α := ExceptT.mk (pure outcome)

/-- A fault, or the value there is. -/
def ofOption (value : Option α) : Hosted m α :=
  ofOutcome (Outcome.ofOption value)

def ofReported (task : Reported m α) : Hosted m α :=
  ExceptT.mk (StateT.lift task.run)

/-- Puts several reports into the journal. -/
def reports (records : Journal) : Hosted m Unit :=
  modifyThe Journal (· ++ records)

def acquire (preference : Preference) : Hosted m Handle := do
  let host ← getThe Host
  let (handle, engine, said) := host.engine.acquire preference
  set { host with engine := engine }
  reports said.toArray
  pure handle

def release (n : Nat) : Hosted m Unit := do
  let host ← getThe Host
  let (engine, said) := host.engine.releaseMany n
  set { host with engine := engine }
  reports said.toArray

/-- Brings the engine up to date with a set-up. -/
def replay (events : Array Event) : Hosted m Unit := do
  let host ← getThe Host
  let (engine, said) := host.engine.replay events
  set { host with engine := engine }
  reports said

/-- Runs a procedure with a handle of its own, given back at the end,
whether it succeeds or not. -/
def withHandle (preference : Preference) (task : Handle → Hosted m α) :
    Hosted m α := do
  let handle ← acquire preference
  let outcome ← ExceptT.lift (task handle).run
  release 1
  ofOutcome outcome

/-- The preference that the environment states, or the configured one. -/
def preference (configured : Preference) : Hosted m Preference := do
  match Preference.fromVariable (← getThe Host).environment.backend
    configured with
  | .ok p => pure p
  | .error e => refuse e

end Hosted

end FireNet
