/-
Sessions: one model, frame after frame. A round overwrites the contents of
all tensors in any way that keeps their shapes and lengths, writes a frame
to the input, and runs a pass.

The scores are those of the pure network on the frames alone, computed on
the backend of the handle that the model was set up with. Nothing of an
earlier frame, and nothing of what was in the tensors, is ever seen, and a
pass leaves the frame in the input.
-/
import FireNet.Proofs.Model.Layout

set_option autoImplicit false

namespace FireNet

/-- What happens to the tensors before a pass, and the frame of the pass. -/
structure Round where
  scramble : Arena → Arena
  frame : Array Single

namespace Model

/-- One round: the score, and what the input holds afterwards. -/
def play (r : Round) : Step Model (Single × Option (Array Single)) := do
  modify fun model => { model with arena := r.scramble model.arena }
  writeInput r.frame
  let score ← forward
  let model ← get
  pure (score, model.arena.data? model.network.input)

/-- Round after round. -/
def session : List Round → Step Model (List (Single × Option (Array Single)))
  | [] => pure []
  | r :: rest => do
    let result ← play r
    let later ← session rest
    pure (result :: later)

/-- The model runs a network on an arena that covers the bound one. -/
structure Runs (model : Model) (n : Network) (layout : Arena) : Prop where
  network_eq : model.network = n
  covers : model.arena.Covers layout

/-- A step on the arena of a model changes that only. -/
theorem onArena_eq_ok {α : Type} {step : Network → Step Arena α} {model : Model}
    {x : α} {a : Arena} (h : step model.network model.arena = .ok x a) :
    onArena step model = .ok x { model with arena := a } := by
  unfold onArena
  rw [h]

section

variable {p : Parameters} {inShape : Shape} {handle : Handle} {b b' : Bench}
  {n : Network}

/-- Values of the number of the input are written and scored as the pure
network scores them; the input keeps them, and the model is ready again. -/
theorem score_eq_ok (h : Network.setup p inShape handle b = .ok n b')
    (hpos : 0 < p.classifier.outputs) {model : Model}
    (hruns : model.Runs n b'.arena) {values : Array Single}
    (hsize : values.size = inShape.volume) :
    ∃ score model₁ model₂,
      p.score? handle.backend ⟨inShape, values⟩ = some score
      ∧ writeInput values model = .ok () model₁
      ∧ forward model₁ = .ok score model₂
      ∧ model₂.Runs n b'.arena ∧ model₂.arena.data? n.input = some values := by
  obtain ⟨network, arena⟩ := model
  obtain ⟨rfl, hcovers⟩ := hruns
  obtain ⟨-, hin, -⟩ := Network.setup_computes h
  obtain ⟨t, ht, htshape, hts⟩ := hcovers _ _ hin
  have hlength : values.size = t.data.size := by
    rw [hsize, hts.size_eq, htshape]
  -- the written values are the input of the pass
  have hwritten := Arena.write_eq_ok ht hlength
  have hcovers' : (arena.put network.input ⟨t.shape, values⟩).Covers b'.arena :=
    hcovers.of_alike (Arena.alike_put ht rfl hlength)
  have hvalues :
    (arena.put network.input ⟨t.shape, values⟩).tensor? network.input
      = some ⟨inShape, values⟩ := by
    rw [Arena.tensor?_put_self (Arena.tensor?_eq_some_lt ht), htshape]
  obtain ⟨score, after, hscore, hforward, halike, hkept⟩ :=
    Network.forward_eq_ok h hpos hcovers' hvalues
  exact ⟨score, _, ⟨network, after⟩, hscore, onArena_eq_ok hwritten,
    onArena_eq_ok hforward,
    ⟨rfl, hcovers'.of_alike halike⟩, Arena.data?_of_tensor? hkept⟩

end

/-- A model that was set up is a network bound from an empty arena. -/
theorem setup_eq_ok {p : Parameters} {inShape : Shape} {handle : Handle}
    {model : Model} {events : Array Event}
    (h : setup p inShape handle = (.ok model, events)) :
    ∃ b', Network.setup p inShape handle (Bench.ofArena Arena.empty)
      = .ok model.network b'
      ∧ model.arena = b'.arena := by
  unfold setup Step.runFrom at h
  cases hnetwork : Network.setup p inShape handle
    (Bench.ofArena Arena.empty) with
  | error e after => simp [hnetwork, Except.map] at h
  | ok n b' =>
      simp only [hnetwork, Except.map, Prod.mk.injEq, Except.ok.injEq] at h
      obtain ⟨rfl, -⟩ := h
      exact ⟨b', rfl, rfl⟩

end Model

end FireNet
