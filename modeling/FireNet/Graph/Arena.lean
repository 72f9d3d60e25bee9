/-
The arena: all intermediate tensors of a model, addressed by number. A
tensor is allocated once, is never reshaped and never goes away, so an id
stays good for as long as the arena.

`withOutput` is how an operator writes: the output is out of the arena
while it is computed, so every other tensor can be read, and comes back
afterwards. Whoever reads the output in between sees an empty tensor, and
so does everybody after a fault.
-/
import FireNet.Tensor.Basic

set_option autoImplicit false

namespace FireNet

/-- The number of a tensor in an arena. -/
structure TensorId where
  index : Nat
  deriving DecidableEq

def TensorId.text (id : TensorId) : String := s!"t{id.index}"

/-- The tensors of one model. -/
structure Arena where
  tensors : Array (Tensor Single)

namespace Arena

def empty : Arena := ⟨#[]⟩

def tensor? (a : Arena) (id : TensorId) : Option (Tensor Single) :=
  a.tensors[id.index]?

def shape? (a : Arena) (id : TensorId) : Option Shape :=
  (a.tensor? id).map (·.shape)

def data? (a : Arena) (id : TensorId) : Option (Array Single) :=
  (a.tensor? id).map (·.data)

/-- The arena with another tensor in place of an id. -/
def put (a : Arena) (id : TensorId) (t : Tensor Single) : Arena :=
  ⟨a.tensors.setIfInBounds id.index t⟩

/-- The bytes that all tensors take. -/
def footprint (a : Arena) : Nat :=
  a.tensors.foldl (fun n t => n + t.data.size * Element.bytes Single) 0

/-- A new tensor of zeros, under the next number. -/
def alloc (shape : Shape) : Step Arena TensorId := do
  let t ← Step.ofOption (Tensor.zeros? shape)
  modifyGet fun a => (⟨a.tensors.size⟩, ⟨a.tensors.push t⟩)

/-- Overwrites all elements of a tensor; a fault when their number differs. -/
def write (id : TensorId) (data : Array Single) : Step Arena Unit := do
  let t ← Step.ofOption ((← get).tensor? id)
  if data.size = t.data.size then modify (·.put id { t with data := data })
    else Step.fault

variable {β : Type}

/-- Computes one output while it is out of the arena. -/
def withOutput (output : TensorId)
    (fill : Arena → Array Single → Option (β × Array Single)) :
    Step Arena β := fun a =>
  match a.tensor? output with
  | none => .error .fault a
  | some t =>
    let rest := a.put output Tensor.empty
    match fill rest t.data with
    | none => .error .fault rest
    | some (b, data) => .ok b (rest.put output { t with data := data })

/-- Computes two different outputs while both are out of the arena. -/
def withOutputs (first second : TensorId)
    (fill : Arena → Array Single → Array Single →
      Option (β × Array Single × Array Single)) :
    Step Arena β := fun a =>
  if first = second then .error .fault a
  else
    match a.tensor? first with
    | none => .error .fault a
    | some t =>
      let rest := a.put first Tensor.empty
      match rest.tensor? second with
      | none => .error .fault rest
      | some u =>
        let rest := rest.put second Tensor.empty
        match fill rest t.data u.data with
        | none => .error .fault rest
        | some (b, x, y) =>
          .ok b ((rest.put first { t with data := x }).put second
            { u with data := y })

/-- Refuses unless a tensor still has the length that it was bound with. -/
def checkBound (op : String) (id : TensorId) (bound : Shape) :
    Step Arena Unit := do
  let data ← Step.ofOption ((← get).data? id)
  let size ← Step.ofOption bound.size?
  if data.size ≠ size then
    refuse (Error.engine op (.boundLength id.index data.size bound))

end Arena

end FireNet
