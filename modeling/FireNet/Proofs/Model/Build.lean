/-
When a declared network can be built, and what is built. The window
formula is applied image by image; over the whole network it amounts to
dividing the input by a power of two, rounded up once, so odd extents and
single pixels need no special case.

For the stages this is an induction over the plan with the power of two
generalised: each stage halves the image once, whatever its width. The
counts are inductions of the same form, six tensors for a block. What is
left to say of a pass comes from the run of the bound network, which asks
of an arena no more than that it covers the layout.
-/
import FireNet.Proofs.Model.Layout
import FireNet.Proofs.Model.Session
import Mathlib.Algebra.Order.Floor.Div
import Mathlib.Algebra.Order.Ring.Nat

set_option autoImplicit false

namespace FireNet

-- ============================================================= halvings

/-- The image with its extents divided by `2 ^ k`, rounded up. -/
def Shape.scaled (input : Shape) (k channels : Nat) : Shape :=
  ⟨input.height ⌈/⌉ 2 ^ k, input.width ⌈/⌉ 2 ^ k, channels⟩

/-- Halving once more, rounding up each time, is rounding up once. -/
theorem ceilDiv_halved (n k : Nat) :
    (n ⌈/⌉ 2 ^ k + 1) / 2 = n ⌈/⌉ 2 ^ (k + 1) := by
  have hpos : 0 < 2 ^ k := Nat.two_pow_pos k
  have hpow : 2 ^ (k + 1) = 2 ^ k * 2 := pow_succ 2 k
  rw [Nat.ceilDiv_eq_add_pred_div, Nat.ceilDiv_eq_add_pred_div,
    ← Nat.add_div_right _ hpos, Nat.div_div_eq_div_mul, hpow]
  congr 1
  omega

variable {input : Shape} {k channels : Nat}

/-- Halving a scaled image scales it once more. -/
theorem Shape.scaled_halved (outputs : Nat) :
    (input.scaled k channels).halved outputs
      = input.scaled (k + 1) outputs := by
  show Shape.mk ((input.height ⌈/⌉ 2 ^ k + 1) / 2)
    ((input.width ⌈/⌉ 2 ^ k + 1) / 2) outputs = _
  rw [ceilDiv_halved, ceilDiv_halved]
  rfl

theorem Shape.halved_eq_scaled (outputs : Nat) :
    input.halved outputs = input.scaled 1 outputs := by
  have hscaled : input.scaled 0 input.channels = input := by
    rw [Shape.scaled, pow_zero, ceilDiv_one, ceilDiv_one]
  calc input.halved outputs
      = (input.scaled 0 input.channels).halved outputs := by rw [hscaled]
    _ = input.scaled 1 outputs := Shape.scaled_halved outputs

/-- The pool halves what the stem halved. -/
theorem Shape.pooled_eq_scaled (first : Nat) :
    input.pooled first = input.scaled 2 first := by
  rw [Shape.pooled, (Shape.halved_eq_scaled first : input.halved first = _)]
  exact Shape.scaled_halved first

/-- Stage `i` halves the image for the `i + 1`-st time. -/
theorem Shape.stageImages_scaled {plan : List (Nat × Nat)} {i : Nat} :
    ((input.scaled k channels).stageImages plan)[i]?
      = (plan[i]?).map fun entry => input.scaled (k + i + 1) entry.2 := by
  induction plan generalizing k channels i with
  | nil => rfl
  | cons entry rest ih =>
      rw [Shape.stageImages, Shape.scaled_halved]
      cases i with
      | zero => rfl
      | succ i =>
          rw [List.getElem?_cons_succ, List.getElem?_cons_succ, ih]
          congr 2
          funext e
          congr 1
          omega

/-- The image of the last stage is scaled once for each stage. -/
theorem Shape.lastImage_scaled {plan : List (Nat × Nat)} (outputs : Nat) :
    ((input.scaled k channels).lastImage plan).withChannels outputs
      = input.scaled (k + plan.length) outputs := by
  induction plan generalizing k channels with
  | nil => rfl
  | cons entry rest ih =>
      rw [Shape.lastImage, Shape.stageImages, Shape.scaled_halved,
        List.getLastD_cons, ← Shape.lastImage, ih, List.length_cons]
      congr 1
      omega

-- =============================================================== counts

/-- Six tensors for each block of each stage. -/
theorem Shape.length_stagesTensors {image : Shape} {plan : List (Nat × Nat)}
    (hpos : ∀ entry ∈ plan, 0 < entry.1) :
    (image.stagesTensors plan).length = 6 * (plan.map Prod.fst).sum := by
  induction plan generalizing image with
  | nil => rfl
  | cons entry rest ih =>
      obtain ⟨repeats, width⟩ := entry
      have hrepeats : 0 < repeats := hpos _ List.mem_cons_self
      rw [Shape.stagesTensors, List.length_append,
        ih fun entry hentry => hpos entry (List.mem_cons_of_mem _ hentry),
        Shape.stageTensors,
        List.length_append, List.length_flatten, List.map_replicate,
        List.sum_replicate_nat, List.map_cons, List.sum_cons]
      show 6 + (repeats - 1) * 6 + 6 * (rest.map Prod.fst).sum = _
      omega

/-- One image for each stage. -/
theorem Shape.length_stageImages {image : Shape} {plan : List (Nat × Nat)} :
    (image.stageImages plan).length = plan.length := by
  induction plan generalizing image with
  | nil => rfl
  | cons entry rest ih =>
      rw [Shape.stageImages, List.length_cons, List.length_cons, ih]

section

variable {arch : Architecture} {first last : Nat} {middle : List Nat}

/-- Six tensors and six more for each block. -/
theorem Architecture.Valid.length_networkTensors
    (h : arch.Valid first last middle) :
    (input.networkTensors first last (arch.repeats.zip middle)).length
      = 6 + 6 * arch.repeats.sum := by
  have hpos : ∀ entry ∈ arch.repeats.zip middle, 0 < entry.1 :=
    fun entry hentry =>
      h.repeats_pos _ (List.of_mem_zip hentry).1
  have hsum : ((arch.repeats.zip middle).map Prod.fst).sum
      = arch.repeats.sum := by
    rw [List.map_fst_zip (Nat.le_of_eq h.length_eq.symm)]
  simp only [Shape.networkTensors, List.length_cons, List.length_append,
    Shape.length_stagesTensors hpos, hsum, List.length_nil]
  omega

/-- Stage `i` follows two halvings and `i` stages, and its width is the
`i + 1`-st of all widths. -/
theorem Architecture.Valid.stageImage_eq (h : arch.Valid first last middle)
    {i : Nat} {image : Shape}
    (himage : ((input.scaled 2 first).stageImages (arch.repeats.zip middle))[i]?
      = some image) :
    image = input.scaled (i + 3) (arch.widths.getD (i + 1) 0) := by
  rw [Shape.stageImages_scaled] at himage
  obtain ⟨⟨repeats, width⟩, hentry, hshape⟩ := Option.map_eq_some_iff.1 himage
  have hwidth : middle[i]? = some width :=
    (List.getElem?_zip_eq_some.1 hentry).2
  have hget : arch.widths.getD (i + 1) 0 = width := by
    rw [h.widths_eq, List.cons_append, List.getD_cons_succ,
      List.getD_eq_getElem?_getD,
      List.getElem?_append_left (List.getElem?_eq_some_iff.1 hwidth).1, hwidth]
    rfl
  rw [hget, ← hshape]
  show input.scaled (2 + i + 1) width = _
  congr 1
  omega

end

-- ================================================================ models

/-- What a model of an architecture consists of: the images that its
operators leave, how many tensors it holds, and that every pass over
tensors of the bound shapes and lengths succeeds and keeps them. -/
structure Model.Built (model : Model) (a : Architecture) (input : Shape) :
    Prop where
  stem : model.arena.shape? model.network.stem.output
    = some (input.scaled 1 (a.widths.headD 0))
  pool : model.arena.shape? model.network.pool.output
    = some (input.scaled 2 (a.widths.headD 0))
  stage_count : model.network.stages.length = a.repeats.length
  stage : ∀ (i : Nat) (s : Stage), model.network.stages[i]? = some s →
    model.arena.shape? s.output
      = some (input.scaled (i + 3) (a.widths.getD (i + 1) 0))
  head : model.arena.shape? model.network.head.output
    = some (input.scaled (a.repeats.length + 2) (a.widths.getLastD 0))
  tensors : model.arena.tensors.size = 6 + 6 * a.repeats.sum
  forward : ∀ arena : Arena, model.arena.Alike arena →
    ∃ (score : Single) (after : Model),
      Model.forward ⟨model.network, arena⟩ = .ok score after
      ∧ after.network = model.network ∧ model.arena.Alike after.arena

namespace Model

variable {arch : Architecture} {p : Parameters} {first last : Nat}
  {middle : List Nat} {inShape : Shape} {handle : Handle} {n : Network}
  {b' : Bench}

/-- Only images of three channels and at least one pixel are bound. -/
theorem input_of_setup {b : Bench}
    (hstem : p.stem.Convolves first 3 (Window.square 3 2 1))
    (h : Network.setup p inShape handle b = .ok n b') :
    (1 ≤ inShape.height ∧ 1 ≤ inShape.width) ∧ inShape.channels = 3 := by
  obtain ⟨after, hafter, -⟩ := Binding.balanced_eq_ok_iff.1 h
  simp only [Step.bind_eq_ok_iff, Binding.alloc_eq_ok_iff] at hafter
  obtain ⟨_, _, ⟨-, rfl, rfl⟩, stem, b₁, hbound, -⟩ := hafter
  obtain ⟨image, outShape, himage, hplaces, -, -, hcheck, -⟩ :=
    Binding.convolve_eq_ok_iff.1 hbound
  have hnew : (b.arena.grow [inShape]).shape? ⟨b.arena.tensors.size⟩
      = some inShape :=
    Arena.shape?_grow_added (i := 0)
  rw [hnew] at himage
  cases himage
  obtain ⟨⟨-, hchannels⟩, -⟩ := Action.check_convolution_eq_ok_iff.1 hcheck
  exact ⟨⟨hplaces.1.input_pos, hplaces.2.input_pos⟩,
    hchannels.trans hstem.inputs_eq⟩

/-- A network that was laid out as listed is built. -/
theorem built_of_laid (hp : p.Declared arch first last middle) {model : Model}
    (hbound : Network.setup p inShape handle (Bench.ofArena Arena.empty)
      = .ok model.network b')
    (harena : model.arena = b'.arena)
    (hgrow : b'.arena
      = Arena.empty.grow
        (inShape.networkTensors first last (arch.repeats.zip middle)))
    (hlaid : model.network.Laid b'.arena inShape first last
      (arch.repeats.zip middle)) :
    model.Built arch inShape := by
  have hvalid := hp.valid
  have hplan : (arch.repeats.zip middle).length = arch.repeats.length := by
    rw [List.length_zip, hvalid.length_eq, Nat.min_self]
  obtain ⟨hstem, hpool, hstages, hhead⟩ := hlaid
  rw [← harena] at hstem hpool hstages hhead
  rw [Shape.pooled_eq_scaled] at hpool hstages hhead
  constructor
  · rw [hstem, Shape.halved_eq_scaled, hvalid.headD_widths]
  · rw [hpool, hvalid.headD_widths]
  · have hlength := congrArg List.length hstages
    rw [List.length_map, List.length_map, Shape.length_stageImages,
      hplan] at hlength
    exact hlength
  · intro i s hs
    have hi := congrArg (fun l => l[i]?) hstages
    simp only [List.getElem?_map, hs, Option.map_some] at hi
    obtain ⟨image, himage, hshape⟩ := Option.map_eq_some_iff.1 hi.symm
    rw [← hshape, hvalid.stageImage_eq himage]
  · rw [hhead, Shape.lastImage_scaled, hplan, hvalid.getLastD_widths,
      Nat.add_comm]
  · rw [harena, hgrow, Arena.size_grow, hvalid.length_networkTensors]
    exact Nat.zero_add _
  · intro arena halike
    obtain ⟨hgrows, hin, -⟩ := Network.setup_computes hbound
    have hcovers : model.arena.Covers b'.arena := by
      rw [harena]
      exact Arena.covers_of_grows_empty hgrows
    obtain ⟨x, hx, -⟩ := (hcovers.of_alike halike) _ _ hin
    have hpos : 0 < p.classifier.outputs := by
      rw [hp.classifier.outputs_eq]
      exact Nat.one_pos
    obtain ⟨score, after, -, hforward, hafter, -⟩ :=
      Network.forward_eq_ok hbound hpos (hcovers.of_alike halike) hx
    exact ⟨score, ⟨model.network, after⟩, onArena_eq_ok hforward, rfl,
      halike.trans hafter⟩

/-- A declared network is set up exactly over images of three channels and
at least one pixel whose tensors all fit. What is set up has the layout of
its architecture, and passes over it never fail. -/
theorem setup_builds {arch : Architecture} {p : Parameters}
    (hdeclared : Parameters.declare arch = .ok p.blank) (inShape : Shape)
    (handle : Handle) :
    ((∃ model events, setup p inShape handle = (.ok model, events)) ↔
        ((1 ≤ inShape.height ∧ 1 ≤ inShape.width) ∧ inShape.channels = 3)
          ∧ ∀ s ∈ arch.tensorShapes inShape, s.Fits)
      ∧ ∀ model events, setup p inShape handle = (.ok model, events) →
          model.Built arch inShape := by
  obtain ⟨first, last, middle, hp⟩ := Parameters.declared_of_declare hdeclared
  rw [hp.valid.tensorShapes_eq]
  refine ⟨⟨?_, ?_⟩, ?_⟩
  · intro hall
    obtain ⟨model, events, hsetup⟩ := hall
    obtain ⟨b', hbound, -⟩ := setup_eq_ok hsetup
    have hinput := input_of_setup hp.stem hbound
    have hallocates : Allocates (Network.setup p inShape handle) _ _ _ :=
      hp.allocates hinput.1.1 hinput.1.2 hinput.2
    exact ⟨hinput, (hallocates.allocated _ _ _ rfl hbound).1⟩
  · intro hall
    obtain ⟨⟨⟨hheight, hwidth⟩, hchannels⟩, hfits⟩ := hall
    exact hp.exists_setup hheight hwidth hchannels hfits handle
  · intro model events hsetup
    obtain ⟨b', hbound, harena⟩ := setup_eq_ok hsetup
    have hinput := input_of_setup hp.stem hbound
    have hallocates : Allocates (Network.setup p inShape handle) _ _ _ :=
      hp.allocates hinput.1.1 hinput.1.2 hinput.2
    obtain ⟨-, hgrow, hlaid⟩ := hallocates.allocated _ _ _ rfl hbound
    rw [← hgrow] at hlaid
    exact built_of_laid hp hbound harena hgrow hlaid

/-- Two stages, of two blocks and of one, on an image of odd height. -/
theorem setup_builds_two_stages :
    ∃ (p : Parameters) (model : Model) (events : Array Event),
      Parameters.declare ⟨[2, 1], [1, 2, 4, 1]⟩ = .ok p.blank
        ∧ setup p ⟨7, 1, 3⟩ ⟨.scalar⟩ = (.ok model, events)
        ∧ model.Built ⟨[2, 1], [1, 2, 4, 1]⟩ ⟨7, 1, 3⟩ := by
  obtain ⟨p, hdeclared⟩ := Parameters.exists_randomized ⟨[2, 1], [1, 2, 4, 1]⟩ 1
    (by decide +kernel)
  obtain ⟨hiff, hbuilt⟩ := setup_builds hdeclared ⟨7, 1, 3⟩ ⟨.scalar⟩
  obtain ⟨model, events, hsetup⟩ := hiff.2 ⟨by decide, by decide⟩
  exact ⟨p, model, events, hdeclared, hsetup, hbuilt model events hsetup⟩

end Model

end FireNet
