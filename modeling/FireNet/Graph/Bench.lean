/-
The bench: where operators are bound. A set-up allocates tensors in an
arena, claims the engine once for each primitive that computes on it, and
reports what it bound. Claims and reports are events, kept in order, so
that the engine can be brought up to date afterwards, step by step.

A set-up that fails gives back what it had claimed; the tensors that it
had allocated stay.
-/
import FireNet.Engine.Basic
import FireNet.Graph.Arena

set_option autoImplicit false

namespace FireNet

/-- What a set-up does outside the arena. -/
inductive Event where
  | note (r : Record)
  | claim
  | release
  deriving DecidableEq

/-- An arena with the events since the bench was laid out. -/
structure Bench where
  arena : Arena
  events : Array Event

/-- A set-up in progress. -/
abbrev Binding (α : Type) := Step Bench α

namespace Bench

/-- A bench over an arena, nothing done yet. -/
def ofArena (arena : Arena) : Bench := ⟨arena, #[]⟩

/-- The claims among events that no later release gives back. -/
def openClaims (events : Array Event) : Nat :=
  events.foldl (fun n e =>
    match e with
    | .claim => n + 1
    | .release => n - 1
    | .note _ => n) 0

end Bench

namespace Binding

variable {α : Type}

def emit (e : Event) : Binding Unit :=
  modify fun b => { b with events := b.events.push e }

def note (level : Level) (text : String) : Binding Unit :=
  emit (.note ⟨level, text⟩)

def onArena (step : Step Arena α) : Binding α := fun b =>
  match step b.arena with
  | .ok x arena => .ok x { b with arena := arena }
  | .error e arena => .error e { b with arena := arena }

def alloc (shape : Shape) : Binding TensorId := onArena (Arena.alloc shape)

/-- The shape of a bound tensor; a fault when there is none. -/
def shapeOf (id : TensorId) : Binding Shape := do
  Step.ofOption ((← get).arena.shape? id)

/-- A set-up that, when it fails, releases every claim that it made. -/
def balanced (step : Binding α) : Binding α := fun b =>
  match step ⟨b.arena, #[]⟩ with
  | .ok x after => .ok x ⟨after.arena, b.events ++ after.events⟩
  | .error e after =>
    let returned :=
      Array.replicate (Bench.openClaims after.events) Event.release
    .error e ⟨after.arena, b.events ++ after.events ++ returned⟩

end Binding

namespace Engine

/-- The engine after the events of a set-up, and all that was reported. -/
def replay (e : Engine) (events : Array Event) : Engine × Journal :=
  events.foldl (fun (e, journal) event =>
    match event with
    | .note r => (e, journal.push r)
    | .claim => (e.claim, journal)
    | .release =>
      let (e, said) := e.release
      (e, journal ++ said)) (e, #[])

end Engine

end FireNet
