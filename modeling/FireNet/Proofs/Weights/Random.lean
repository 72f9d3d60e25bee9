/-
A random fill does not look at the values that it overwrites. Of a layer it
looks at the outputs and at the lengths of the two halves (`Layer.profile`):
they give the bound of the draws and their number. So two layers of one
profile draw the same values from one state and hand on the same state, and
by induction on the load order two networks draw the same values as far as
their profiles agree, whatever comes after. The sampler is any: the
argument runs on its state and never asks what it draws.
-/
import FireNet.Proofs.Weights.Traversal
import FireNet.Weights.Random

set_option autoImplicit false

namespace FireNet

variable {γ : Type} {s : Sampler γ}

/-- A sampler adds as many values as it is asked for. -/
theorem Sampler.size_draws {low high : Single} {n : Nat} {g : γ}
    {values : Array Single} :
    (s.draws low high n g values).1.size = values.size + n := by
  induction n generalizing g values with
  | zero => rfl
  | succ n ih =>
      unfold draws
      rw [ih, Array.size_push]
      omega

-- =============================================================== layers

namespace Layer

/-- What a random fill looks at: the outputs, the number of weights, and the
number of biases if there is a bias. -/
def profile (l : Layer) : Nat × Nat × Option Nat :=
  (l.outputs, l.weights.size, l.bias.map Array.size)

/-- The weights and the bias. -/
def halves (l : Layer) : Array Single × Option (Array Single) :=
  (l.weights, l.bias)

variable {l l' : Layer}

/-- The bound of the weights is told by the profile alone. -/
theorem weightBound_congr (h : l.profile = l'.profile) :
    l.weightBound = l'.weightBound := by
  injection h with houtputs h
  injection h with hweights _
  unfold weightBound fanIn
  rw [houtputs, hweights]

/-- Layers of one profile draw the same values and hand on the same state. -/
theorem randomize_congr (h : l.profile = l'.profile) (g : γ) :
    (l.randomize s g).1.halves = (l'.randomize s g).1.halves
      ∧ (l.randomize s g).2 = (l'.randomize s g).2 := by
  have hbound := weightBound_congr h
  injection h with _ h
  injection h with hweights hbias
  unfold randomize
  rw [hbound, hweights]
  cases hold : l.bias with
  | none =>
      rw [hold, Option.map_none, eq_comm, Option.map_eq_none_iff] at hbias
      rw [hbias]
      exact ⟨rfl, rfl⟩
  | some old =>
      rw [hold, Option.map_some, eq_comm, Option.map_eq_some_iff] at hbias
      obtain ⟨old', hold', hsize⟩ := hbias
      simp [halves, hold', hsize]

/-- Drawn values fill the place of the old ones. -/
theorem blank_randomize (g : γ) : (l.randomize s g).1.blank = l.blank := by
  unfold randomize
  cases hold : l.bias with
  | none => simp [blank, Sampler.size_draws, hold]
  | some old => simp [blank, Sampler.size_draws, hold]

end Layer

-- ============================================================== networks

/-- What holds of a result from every state may be assumed after it. -/
theorem Returns.of_state {α : Type} {x : StateM γ α} {P : α → Prop}
    (h : ∀ g, P (x g).1) :
    Returns x P := by
  constructor
  intro β f f' hf
  funext g
  exact congrFun (hf _ (h g)) (x g).2

/-- What a computation returns from any state satisfies its condition. -/
theorem Returns.run {α : Type} {x : StateM γ α} {P : α → Prop} (h : Returns x P)
    (g : γ) :
    P (x g).1 := by
  -- to test `P` after `x` is to answer yes
  have htest :=
      h.bind_congr (fun a => Pure.pure (P a))
        (fun _ => Pure.pure True) fun a ha => by
    rw [eq_true ha]
  exact of_eq_true (congrArg Prod.fst (congrFun htest g))

/-- One layer after another, each from the state that the one before left. -/
theorem mapM_visitListed_cons {visit : LayerAddress → Layer → StateM γ Layer}
    {entry : LayerAddress × Layer} {rest : List (LayerAddress × Layer)}
    {g : γ} :
    ((entry :: rest).mapM (visitListed visit) g).1
      = (entry.1, (visit entry.1 entry.2 g).1)
        :: (rest.mapM (visitListed visit) (visit entry.1 entry.2 g).2).1 := by
  rw [List.mapM_cons]
  rfl

/-- Listed layers draw the same values as far as their profiles agree. -/
theorem take_halves_randomize {n : Nat}
    {layers layers' : List (LayerAddress × Layer)} {g : γ}
    (h : (layers.map fun e => e.2.profile).take n
      = (layers'.map fun e => e.2.profile).take n) :
    ((layers.mapM (visitListed fun _ l => l.randomize s) g).1.map fun e =>
      e.2.halves).take n
      = ((layers'.mapM (visitListed fun _ l => l.randomize s) g).1.map
          fun e => e.2.halves).take n := by
  induction n generalizing layers layers' g with
  | zero => rfl
  | succ n ih =>
      cases layers with
      | nil =>
          cases layers' with
          | nil => rfl
          | cons => cases h
      | cons entry rest =>
          cases layers' with
          | nil => cases h
          | cons entry' rest' =>
              injection h with hfirst hrest
              obtain ⟨hhalves, hstate⟩ :=
                Layer.randomize_congr (s := s) hfirst g
              rw [mapM_visitListed_cons, mapM_visitListed_cons, List.map_cons,
                List.map_cons,
                List.take_succ_cons, List.take_succ_cons, ← hstate, ih hrest]
              exact congrArg (· :: _) hhalves

namespace Parameters

/-- The layers are drawn one after another, from the start of the seed on. -/
theorem layers_randomizeWith {seed : UInt64} {p : Parameters} :
    (p.randomizeWith s seed).layers
      = (p.layers.mapM (visitListed fun _ l => l.randomize s)
        (s.start seed)).1 := by
  rw [← layers_traverse]
  rfl

/-- All but values stays. -/
theorem blank_randomizeWith {seed : UInt64} {p : Parameters} :
    (p.randomizeWith s seed).blank = p.blank := by
  have hkeeps : Returns (p.traverse fun _ l =>
    l.randomize s) fun p' : Parameters =>
      p'.map Layer.blank = p.map Layer.blank :=
    map_traverse fun _ _ => Returns.of_state Layer.blank_randomize
  exact hkeeps.run _

/-- From one seed, two networks whose layers have the same profiles up to
some place in load order get the same values up to there, whatever values
they had and whatever layers come after. A fill changes nothing but values:
blank, a network is what it was. For `randomize` the sampler is
`Sampler.uniform`. -/
theorem randomizeWith_agrees (s : Sampler γ) (seed : UInt64) {p q : Parameters}
    {n : Nat}
    (h : (p.layers.map fun e => e.2.profile).take n
      = (q.layers.map fun e => e.2.profile).take n) :
    ((p.randomizeWith s seed).layers.map fun e => e.2.halves).take n
        = ((q.randomizeWith s seed).layers.map fun e => e.2.halves).take n
      ∧ (p.randomizeWith s seed).blank = p.blank
      ∧ (q.randomizeWith s seed).blank = q.blank := by
  refine ⟨?_, blank_randomizeWith, blank_randomizeWith⟩
  rw [layers_randomizeWith, layers_randomizeWith]
  exact take_halves_randomize h

/-- Six layers that hold one value everywhere, the last of some length. -/
def sixLayers (value : Single) (last : Nat) : Parameters :=
  let layer (n : Nat) (bias : Option (Array Single)) : Layer :=
    ⟨1, 1, Window.square 1 1 0, .identity, Array.replicate n value, bias⟩
  ⟨⟨[1], [1, 2, 1]⟩, layer 2 (some #[value]), layer 3 none, layer 1 (some #[]),
    [⟨[⟨2, 1, 1, none, layer 2 none, layer 1 (some #[value, value]),
      layer last none⟩]⟩]⟩

/-- The last layers differ in length, so only the five before them agree. -/
theorem randomizeWith_agrees_before_last :
    ∃ p q : Parameters,
      p = sixLayers Single.quietNaN 4 ∧ q = sixLayers Single.negZero 5
      ∧ ((p.layers.map fun e => e.2.profile).take 5
        = (q.layers.map fun e => e.2.profile).take 5)
      ∧ ((p.layers.map fun e => e.2.profile).take 6
        ≠ (q.layers.map fun e => e.2.profile).take 6)
      ∧ (((p.randomize 7).layers.map fun e => e.2.halves).take 5
        = ((q.randomize 7).layers.map fun e => e.2.halves).take 5)
      ∧ (p.randomize 7).blank = p.blank := by
  have hprofiles :
    ((sixLayers Single.quietNaN 4).layers.map fun e => e.2.profile).take 5
      = ((sixLayers Single.negZero 5).layers.map fun e => e.2.profile).take
        5 := by decide
  obtain ⟨hagree, hblank, -⟩ := randomizeWith_agrees Sampler.uniform 7 hprofiles
  exact ⟨_, _, rfl, rfl, hprofiles, by decide, hagree, hblank⟩

end Parameters

end FireNet
