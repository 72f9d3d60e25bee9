/-
The journal: what the library reports while it works, as text records of
three levels, in the order in which they arise.
-/
import FireNet.Failure

set_option autoImplicit false

namespace FireNet

/-- How much a record matters. -/
inductive Level where
  | debug
  | info
  | warn
  deriving DecidableEq

def Level.text : Level → String
  | .debug => "DEBUG"
  | .info => "INFO"
  | .warn => "WARN"

structure Record where
  level : Level
  text : String
  deriving DecidableEq

/-- A record as one line, `LEVEL text`. -/
def Record.line (r : Record) : String := s!"{r.level.text} {r.text}"

/-- Reports, oldest first. -/
abbrev Journal := Array Record

/-- A procedure over some base monad that reports into a journal. -/
abbrev Reporting (m : Type → Type) (α : Type) := StateT Journal m α

/-- A procedure that reports and may fail; the reports up to a failure stay. -/
abbrev Reported (m : Type → Type) (α : Type) := ExceptT Failure (Reporting m) α

/-- Adds a report to the journal that a monad carries. -/
def report {m : Type → Type} [MonadStateOf Journal m] (level : Level)
    (text : String) : m Unit :=
  modifyThe Journal (·.push ⟨level, text⟩)

end FireNet
