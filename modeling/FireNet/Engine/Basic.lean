/-
The compute engine: one for a whole process, counted by its users. The
first handle starts it and picks the backend; the last one released tears
it down. While it runs, every handle names the same backend.

Each operation below is one atomic step. A step also says what it reports.
-/
import FireNet.Engine.Backend
import FireNet.Journal

set_option autoImplicit false

namespace FireNet

structure Engine where
  users : Nat
  /-- What it computes with; `none` while it is torn down. -/
  backend : Option Backend
  /-- The best backend of the machine, which no step changes. -/
  offered : Backend
  deriving DecidableEq

/-- A claim on the running engine. -/
structure Handle where
  backend : Backend
  deriving DecidableEq

namespace Engine

/-- An engine without users, on a machine that has vector instructions
unless something else is said. -/
def idle (offered : Backend := .vector) : Engine := ⟨0, none, offered⟩

/-- A new handle. The preference matters only when this starts the engine. -/
def acquire (preference : Preference) (e : Engine) :
    Handle × Engine × List Record :=
  match e.backend with
  | some backend =>
    let ignored := preference = .scalar ∧ backend ≠ .scalar
    (⟨backend⟩, { e with users := e.users + 1 },
      if ignored then
        [⟨.debug, s!"kernel engine already running on {backend.name}; " ++
          "scalar request ignored"⟩]
      else [])
  | none =>
    let backend := preference.backend e.offered
    (⟨backend⟩, { e with users := e.users + 1, backend := some backend },
      [⟨.info, s!"kernel engine initialized (backend={backend.name})"⟩])

def claim (e : Engine) : Engine := { e with users := e.users + 1 }

def release (e : Engine) : Engine × List Record :=
  let users := e.users - 1
  match e.backend with
  | some backend =>
    if users = 0 then
      (idle e.offered,
        [⟨.info, s!"kernel engine torn down (backend={backend.name})"⟩])
    else ({ e with users := users }, [])
  | none => ({ e with users := users }, [])

/-- Several handles given back, one after another. -/
def releaseMany : Nat → Engine → Engine × List Record
  | 0, e => (e, [])
  | n + 1, e =>
    let (e, first) := e.release
    let (e, rest) := releaseMany n e
    (e, first ++ rest)

end Engine

end FireNet
