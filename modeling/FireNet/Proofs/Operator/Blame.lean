/-
Who is to blame for a set-up that fails. A failure *blames* an operator when
it is an error with the path of that operator, which then does not suit the
tensors it was bound to; a fault has no path, and comes only from a size
that leaves the word (`Failure.Blames`).

A set-up is a row of checks, and nothing says which of them will speak. So
what an operator asks for is fixed beforehand, once for all of its checks,
and each check only has to be one of those things (`Outcome.Blames`): of a
row the first failure is blamed like any other. What a convolution asks for
is also all that it takes to bind it (`Convolution.binds_iff`).
-/
import FireNet.Proofs.Binding

set_option autoImplicit false

namespace FireNet

variable {op : String} {suits roomy : Prop}

-- ============================================================== failures

/-- The path of the operator that a configuration or engine error is about. -/
def Error.path? : Error → Option String
  | .config path _ => some path
  | .engine path _ => some path
  | _ => none

/-- An error names the operator, and it does not suit; a fault means that
some size of it is not a size in words. -/
def Failure.Blames (op : String) (suits roomy : Prop) : Failure → Prop
  | .fault => ¬roomy
  | .error e => e.path? = some op ∧ ¬suits

-- ============================================================== outcomes

namespace Outcome

variable {α β : Type}

/-- If it is a failure, it blames the operator. -/
def Blames (x : Outcome α) (op : String) (suits roomy : Prop) : Prop :=
  ∀ f, x = .error f → f.Blames op suits roomy

namespace Blames

/-- What succeeds blames nobody. -/
theorem pure {a : α} : (Pure.pure a : Outcome α).Blames op suits roomy :=
  fun _ h => by cases h

/-- An error that names the operator may be given where it does not suit. -/
theorem refuse {e : Error} (he : e.path? = some op) (h : ¬suits) :
    (FireNet.refuse e : Outcome α).Blames op suits roomy := by
  intro f hf
  cases hf
  exact ⟨he, h⟩

/-- A missing size blames the room. -/
theorem ofOption {x : Option α} (h : roomy → ∃ a, x = some a) :
    (Outcome.ofOption x).Blames op suits roomy := by
  intro f hf
  cases x with
  | some a => cases hf
  | none =>
      cases hf
      intro hroomy
      obtain ⟨a, ha⟩ := h hroomy
      cases ha

/-- A failure of two parts is one of the first, or one of the second after
it. -/
theorem bind {x : Outcome α} {g : α → Outcome β} (hx : x.Blames op suits roomy)
    (hg : ∀ a, x = .ok a → (g a).Blames op suits roomy) :
    (x >>= g).Blames op suits roomy := by
  intro f hf
  rcases bind_eq_error_iff.1 hf with hf | ⟨a, ha, hf⟩
  · exact hx f hf
  · exact hg a ha f hf

/-- A check that refuses only what does not suit. -/
theorem guard {c : Prop} [Decidable c] {e : Error} {g : α → Outcome β}
    {y : Outcome β} (he : e.path? = some op) (hc : suits → ¬c)
    (hy : y.Blames op suits roomy) :
    (if c then FireNet.refuse e >>= g else y).Blames op suits roomy := by
  by_cases h : c
  · rw [if_pos h]
    exact (refuse he fun hs => hc hs h).bind fun _ ha => by cases ha
  · rw [if_neg h]
    exact hy

theorem lastGuard {c : Prop} [Decidable c] {e : Error} (he : e.path? = some op)
    (hc : suits → ¬c) :
    (if c then FireNet.refuse e else Pure.pure () : Outcome Unit).Blames op
      suits roomy := by
  by_cases h : c
  · rw [if_pos h]
    exact refuse he fun hs => hc hs h
  · rw [if_neg h]
    exact pure

end Blames

end Outcome

-- ================================================================= steps

/-- Only for want of room is there no new tensor. -/
theorem Binding.alloc_eq_error {shape : Shape} {b b' : Bench} {f : Failure}
    (h : Binding.alloc shape b = .error f b') : f = .fault ∧ ¬shape.Fits := by
  have hne (hfits : shape.Fits) : False := by
    rw [Binding.alloc_eq_ok_iff.2 ⟨hfits, rfl, rfl⟩] at h
    cases h
  unfold Binding.alloc Binding.onArena at h
  cases halloc : Arena.alloc shape b.arena with
  | ok id arena =>
      rw [halloc] at h
      cases h
  | error e arena =>
      rw [halloc] at h
      cases h
      exact ⟨(Arena.alloc_eq_error halloc).1, hne⟩

namespace Step

variable {σ α β : Type} {s : σ}

/-- If it fails from here, the failure blames the operator. -/
def Blames (x : Step σ α) (s : σ) (op : String) (suits roomy : Prop) : Prop :=
  ∀ f s', x s = .error f s' → f.Blames op suits roomy

namespace Blames

/-- What succeeds blames nobody. -/
theorem of_ok {x : Step σ α} {a : α} {t : σ} (h : x s = .ok a t) :
    x.Blames s op suits roomy := by
  intro f s' hf
  rw [h] at hf
  cases hf

/-- The second part may use what the first one came to. -/
theorem bind {x : Step σ α} {g : α → Step σ β} (hx : x.Blames s op suits roomy)
    (hg : ∀ a t, x s = .ok a t → (g a).Blames t op suits roomy) :
    (x >>= g).Blames s op suits roomy := by
  intro f s' hf
  rcases bind_eq_error_iff.1 hf with hf | ⟨a, t, ha, hf⟩
  · exact hx f s' hf
  · exact hg a t ha f s' hf

/-- An outcome on the way is one part. -/
theorem ofOutcome {x : Outcome α} {g : α → Step σ β}
    (hx : x.Blames op suits roomy)
    (hg : ∀ a, x = .ok a → (g a).Blames s op suits roomy) :
    (Step.ofOutcome x >>= g).Blames s op suits roomy := by
  intro f s' hf
  cases x with
  | ok a => exact hg a rfl f s' hf
  | error e =>
      cases hf
      exact hx f rfl

/-- A shape that is there is no reason to fail. -/
theorem shapeOf {b : Bench} {id : TensorId} {shape : Shape}
    {g : Shape → Binding β} (hid : b.arena.shape? id = some shape)
    (hg : (g shape).Blames b op suits roomy) :
    (Binding.shapeOf id >>= g).Blames b op suits roomy := by
  intro f s' hf
  rw [bind_of_ok (Binding.shapeOf_eq_ok_iff.2 ⟨hid, rfl⟩)] at hf
  exact hg f s' hf

/-- If there is room for a tensor, it comes to stand behind all others. -/
theorem alloc {b : Bench} {shape : Shape} {g : TensorId → Binding β}
    (hfits : roomy → shape.Fits)
    (hg : (g ⟨b.arena.tensors.size⟩).Blames ⟨b.arena.grow [shape], b.events⟩ op
      suits roomy) :
    (Binding.alloc shape >>= g).Blames b op suits roomy := by
  refine bind (fun f s' hf => ?_) fun id t ht => ?_
  · obtain ⟨rfl, hnone⟩ := Binding.alloc_eq_error hf
    exact fun hroomy => hnone (hfits hroomy)
  · obtain ⟨-, rfl, rfl⟩ := Binding.alloc_eq_ok_iff.1 ht
    exact hg

end Blames

end Step

-- =============================================================== windows

namespace Axis

/-- The kernel, spread by its dilation, can be laid over a padded input. -/
structure LiesOver (a : Axis) (input : Nat) : Prop where
  kernel_pos : 0 < a.kernel
  stride_pos : 0 < a.stride
  dilation_pos : 0 < a.dilation
  input_pos : 0 < input
  extent_le : a.extent ≤ input + 2 * a.padding

/-- Both extents are sizes in words. -/
structure InWords (a : Axis) (input : Nat) : Prop where
  extent_lt : a.extent < Size.limit
  padded_lt : input + 2 * a.padding < Size.limit

/-- How many places there are over an input. -/
def count (a : Axis) (input : Nat) : Nat :=
  (input + 2 * a.padding - a.extent) / a.stride + 1

variable {a : Axis} {input n : Nat}

theorem Places.liesOver (h : a.Places input n) : a.LiesOver input :=
  ⟨h.kernel_pos, h.stride_pos, h.dilation_pos, h.input_pos, h.extent_le⟩

theorem Places.inWords (h : a.Places input n) : a.InWords input :=
  ⟨Nat.lt_of_le_of_lt h.extent_le h.padded_lt, h.padded_lt⟩

/-- Where it is in words, the places are computed. -/
theorem InWords.exists_places? (h : a.InWords input) :
    ∃ places, a.places? input a.extent = some places := by
  unfold places?
  split
  case isTrue => exact ⟨none, rfl⟩
  case isFalse =>
    rw [Option.bind_eq_bind, padded?_eq_some_iff.2 ⟨h.padded_lt, rfl⟩,
      Option.bind_some]
    split
    case isTrue => exact ⟨none, rfl⟩
    case isFalse hle =>
      -- a kernel has a cell, so there are no more places than pixels
      have hquot := Nat.div_le_self (input + 2 * a.padding - a.extent) a.stride
      have hpos := a.extent_pos
      have hlt := h.padded_lt
      rw [Size.add_eq_some_iff.2 ⟨by omega, rfl⟩]
      exact ⟨_, rfl⟩

/-- Where it lies over the input, there is a place. -/
theorem LiesOver.places?_ne (h : a.LiesOver input) :
    a.places? input a.extent ≠ some none := by
  have hkernel := h.kernel_pos
  have hstride := h.stride_pos
  have hdilation := h.dilation_pos
  have hinput := h.input_pos
  have hle := h.extent_le
  intro hnone
  rw [places?, if_neg (by omega)] at hnone
  obtain ⟨padded, hpadded, hnone⟩ := Option.bind_eq_some_iff.1 hnone
  obtain ⟨-, rfl⟩ := padded?_eq_some_iff.1 hpadded
  rw [if_neg (by omega)] at hnone
  obtain ⟨places, -, hnone⟩ := Option.bind_eq_some_iff.1 hnone
  cases hnone

end Axis

namespace Window

/-- The window can be laid over an image, along both axes. -/
structure LiesOver (w : Window) (image : Shape) : Prop where
  vertical : w.vertical.LiesOver image.height
  horizontal : w.horizontal.LiesOver image.width

/-- All coordinates of the window are worked out within words. -/
structure InWords (w : Window) (image : Shape) : Prop where
  vertical : w.vertical.InWords image.height
  horizontal : w.horizontal.InWords image.width

variable {w : Window} {image : Shape}

/-- Where it is in words, the output is computed. -/
theorem InWords.exists_output? (h : w.InWords image) :
    ∃ places, w.output? image.height image.width = some places := by
  obtain ⟨rows, hrows⟩ := h.vertical.exists_places?
  obtain ⟨columns, hcolumns⟩ := h.horizontal.exists_places?
  rw [output?, Option.bind_eq_bind,
    extents?_eq_some_iff.2 ⟨h.vertical.extent_lt, h.horizontal.extent_lt, rfl⟩]
  simp only [Option.bind_eq_bind, Option.bind_some, hrows, hcolumns]
  cases rows with
  | none => exact ⟨none, rfl⟩
  | some rows =>
      cases columns with
      | none => exact ⟨none, rfl⟩
      | some columns => exact ⟨_, rfl⟩

/-- Where it lies over the image, there is an output. -/
theorem LiesOver.output?_ne (h : w.LiesOver image) :
    w.output? image.height image.width ≠ some none := by
  intro hnone
  obtain ⟨extents, hextents, hnone⟩ := Option.bind_eq_some_iff.1 hnone
  obtain ⟨-, -, rfl⟩ := extents?_eq_some_iff.1 hextents
  obtain ⟨rows, hrows, hnone⟩ := Option.bind_eq_some_iff.1 hnone
  cases rows with
  | none => exact h.vertical.places?_ne hrows
  | some rows =>
      obtain ⟨columns, hcolumns, hnone⟩ := Option.bind_eq_some_iff.1 hnone
      cases columns with
      | none => exact h.horizontal.places?_ne hcolumns
      | some columns => cases hnone

end Window

-- ================================================================ checks

namespace Check

/-- The channel check blames only channels that differ or are none. -/
theorem channels_blames {port : Port} {shape : Shape} {expected : Nat}
    (h : suits → 0 < expected ∧ shape.channels = expected) :
    (channels op port shape expected).Blames op suits roomy := by
  unfold channels
  by_cases hnone : expected = 0 ∨ shape.channels = 0
  · rw [if_pos hnone]
    refine .refuse rfl fun hs => ?_
    obtain ⟨hpos, heq⟩ := h hs
    omega
  · rw [if_neg hnone]
    exact .lastGuard rfl fun hs hne => hne (h hs).2

/-- The dilation check blames only a dilation. -/
theorem undilated_blames {window : Window}
    (h : suits → window.vertical.dilation = 1
      ∧ window.horizontal.dilation = 1) :
    (undilated op window).Blames op suits roomy := by
  refine .lastGuard rfl fun hs => ?_
  obtain ⟨hv, hh⟩ := h hs
  omega

/-- The extent check blames only an output of another extent. -/
theorem extent_blames {computed : Nat × Nat} {output : Shape}
    (h : suits → computed = (output.height, output.width)) :
    (extent op computed output).Blames op suits roomy := by
  unfold extent
  by_cases heq : computed = (output.height, output.width)
  · rw [if_pos heq]
    exact .pure
  · rw [if_neg heq]
    exact .refuse rfl fun hs => heq (h hs)

/-- The window check blames a window that the image has no room for, or the
words. -/
theorem windowOutput_blames {window : Window} {image : Shape}
    (hlies : suits → window.LiesOver image)
    (hwords : roomy → window.InWords image) :
    (windowOutput op window image).Blames op suits roomy := by
  refine (Outcome.Blames.ofOption fun hroomy =>
    (hwords hroomy).exists_output?).bind fun o ho => ?_
  cases o with
  | some extent => exact .pure
  | none => exact .refuse rfl fun hs =>
    (hlies hs).output?_ne (Outcome.ofOption_eq_ok_iff.1 ho)

/-- The count check blames only counts that differ. -/
theorem parameterCounts_blames {layer : Layer} {weights : Nat}
    (h : suits → layer.weights.size = weights
      ∧ layer.filter.BiasCovers layer.outputs) :
    (parameterCounts op layer weights).Blames op suits roomy := by
  refine .guard rfl (fun hs hne => hne (h hs).1) ?_
  cases hbias : layer.bias with
  | none => exact .pure
  | some bias => exact .lastGuard rfl fun hs hne => hne ((h hs).2 bias hbias)

end Check

/-- On shapes that are there, a set-up fails by its check alone. -/
theorem Primitive.setup_blames {name : String} {action : Action}
    {input output : TensorId} {handle : Handle} {b : Bench}
    {inShape outShape : Shape} (hin : b.arena.shape? input = some inShape)
    (hout : b.arena.shape? output = some outShape)
    (hcheck : (action.check name inShape outShape).Blames op suits roomy) :
    (Primitive.setup name action input output handle).Blames b op suits roomy :=
  .shapeOf hin (.shapeOf hout (.ofOutcome hcheck fun _ _ => .of_ok rfl))

-- ========================================================== convolutions

/-- A convolution layer of either kind. -/
inductive Convolution where
  | dense (layer : Layer)
  | depthwise (layer : Layer)

namespace Convolution

/-- What is convolved with. -/
def layer : Convolution → Layer
  | dense layer => layer
  | depthwise layer => layer

/-- As which action it is bound. -/
def kind : Convolution → Layer → Action
  | dense _ => .convolution
  | depthwise _ => .depthwise

/-- The cells of the kernels of all outputs, as far as one input sees them. -/
def cells (c : Convolution) : Nat :=
  c.layer.outputs * c.layer.window.vertical.kernel
    * c.layer.window.horizontal.kernel

/-- How many weights it takes. -/
def weights (c : Convolution) : Nat :=
  match c with
  | dense layer => c.cells * layer.inputs
  | depthwise _ => c.cells

/-- The shape of what it makes of an image. -/
def result (c : Convolution) (image : Shape) : Shape :=
  ⟨c.layer.window.vertical.count image.height,
    c.layer.window.horizontal.count image.width, c.layer.outputs⟩

/-- All that a convolution asks for in an image and in its own layer. -/
structure Suits (c : Convolution) (image : Shape) : Prop where
  inputs_pos : 0 < c.layer.inputs
  channels_eq : image.channels = c.layer.inputs
  outputs_pos : 0 < c.layer.outputs
  outputs_eq : ∀ layer, c = depthwise layer → layer.inputs = layer.outputs
  undilated : c.layer.window.vertical.dilation = 1
    ∧ c.layer.window.horizontal.dilation = 1
  lies : c.layer.window.LiesOver image
  weights_eq : c.layer.weights.size = c.weights
  bias : ∀ bias, c.layer.bias = some bias → bias.size = c.layer.outputs

/-- All that is counted on the way is a size in words. -/
structure InWords (c : Convolution) (image : Shape) : Prop where
  window : c.layer.window.InWords image
  result : (c.result image).Fits
  rows_lt : c.layer.outputs * c.layer.window.vertical.kernel < Size.limit
  cells_lt : c.cells < Size.limit
  weights_lt : c.weights < Size.limit

variable {c : Convolution} {image outShape : Shape} {name : String}
  {input : TensorId} {handle : Handle} {b : Bench}

/-- Over places of its window, with a channel for each output, its check
blames it. -/
theorem check_blames
    (hplaces : c.layer.window.Places image.height image.width
      (outShape.height, outShape.width))
    (hout : outShape.channels = c.layer.outputs) :
    ((c.kind c.layer).check op image outShape).Blames op (c.Suits image)
      (c.InWords image) := by
  have hextent (places : Nat × Nat)
      (h : Check.windowOutput op c.layer.window image = .ok places) :
      places = (outShape.height, outShape.width) := by
    cases h.symm.trans (Check.windowOutput_eq_ok_iff.2 hplaces)
    rfl
  -- check by check in the order of the text: a field of `Suits` each, or a
  -- count that has to be a word
  cases c with
  | dense layer =>
      refine (Check.channels_blames fun h => ⟨h.inputs_pos, h.channels_eq⟩).bind
        fun _ _ => ?_
      refine (Check.channels_blames fun h => ⟨h.outputs_pos, hout⟩).bind
        fun _ _ => ?_
      refine (Check.undilated_blames fun h => h.undilated).bind fun _ _ => ?_
      refine (Check.windowOutput_blames (fun h => h.lies) fun h =>
        h.window).bind fun places hw => ?_
      refine (Check.extent_blames fun _ => hextent places hw).bind fun _ _ => ?_
      refine (Outcome.Blames.ofOption fun h => ?_).bind fun n hn => ?_
      · exact ⟨_, Filter.denseWeights?_eq_some_iff.2
          ⟨h.rows_lt, h.cells_lt, h.weights_lt, rfl⟩⟩
      · have hcount :=
          (Filter.denseWeights?_eq_some_iff.1
            (Outcome.ofOption_eq_ok_iff.1 hn)).2.2.2
        exact Check.parameterCounts_blames fun h =>
          ⟨h.weights_eq.trans hcount.symm, h.bias⟩
  | depthwise layer =>
      refine .guard rfl (fun h hne => hne (h.outputs_eq layer rfl)) ?_
      refine (Check.channels_blames fun h => ⟨h.inputs_pos, h.channels_eq⟩).bind
        fun _ _ => ?_
      refine (Check.channels_blames fun h => ⟨h.outputs_pos, hout⟩).bind
        fun _ _ => ?_
      refine (Check.undilated_blames fun h => h.undilated).bind fun _ _ => ?_
      refine (Check.windowOutput_blames (fun h => h.lies) fun h =>
        h.window).bind fun places hw => ?_
      refine (Check.extent_blames fun _ => hextent places hw).bind fun _ _ => ?_
      refine (Outcome.Blames.ofOption fun h => ?_).bind fun n hn => ?_
      · rw [Option.bind_eq_bind, Size.mul_eq_some_iff.2 ⟨h.rows_lt, rfl⟩]
        exact ⟨_, Size.mul_eq_some_iff.2 ⟨h.cells_lt, rfl⟩⟩
      · obtain ⟨a, ha, hn⟩ :=
          Option.bind_eq_some_iff.1 (Outcome.ofOption_eq_ok_iff.1 hn)
        obtain ⟨-, rfl⟩ := Size.mul_eq_some_iff.1 ha
        obtain ⟨-, rfl⟩ := Size.mul_eq_some_iff.1 hn
        exact Check.parameterCounts_blames fun h => ⟨h.weights_eq, h.bias⟩

/-- A convolution that cannot be bound is to blame. -/
theorem bind_blames (hin : b.arena.shape? input = some image) :
    (Binding.convolve name c.kind c.layer input handle).Blames b name
      (c.Suits image)
      (c.InWords image) := by
  refine .shapeOf hin (.ofOutcome (Check.windowOutput_blames (fun h => h.lies)
    fun h => h.window) fun places hw => ?_)
  obtain ⟨height, width⟩ := places
  have hplaces := Check.windowOutput_eq_ok_iff.1 hw
  refine .alloc (fun h => ?_) ?_
  · obtain ⟨hv, hh⟩ := hplaces
    obtain rfl := hv.places_eq
    obtain rfl := hh.places_eq
    exact h.result
  · exact Primitive.setup_blames (Arena.shape?_grow_of_some hin)
      (Arena.shape?_grow_added (i := 0)) (check_blames hplaces rfl)

/-- A convolution is bound exactly to the images that suit it, as far as the
sizes are sizes in words. -/
theorem binds_iff (hin : b.arena.shape? input = some image) :
    (∃ p b', Binding.convolve name c.kind c.layer input handle b = .ok p b') ↔
      c.Suits image ∧ c.InWords image := by
  constructor
  · intro hall
    obtain ⟨p, b', h⟩ := hall
    obtain ⟨image', outShape, hin', hplaces, hout, hfits, hcheck, -⟩ :=
      Binding.convolve_eq_ok_iff.1 h
    obtain rfl := Option.some.inj (hin.symm.trans hin')
    -- the places that were found are those that the result counts
    obtain ⟨height, width, channels⟩ := outShape
    obtain rfl : height = c.layer.window.vertical.count image.height :=
      hplaces.1.places_eq
    obtain rfl : width = c.layer.window.horizontal.count image.width :=
      hplaces.2.places_eq
    obtain rfl : channels = c.layer.outputs := hout
    have hlies : c.layer.window.LiesOver image :=
      ⟨hplaces.1.liesOver, hplaces.2.liesOver⟩
    have hwords : c.layer.window.InWords image :=
      ⟨hplaces.1.inWords, hplaces.2.inWords⟩
    cases c with
    | dense layer =>
        obtain ⟨⟨hpos, hchannels⟩, ⟨houtputs, -⟩, hdilation, -,
            hweights, hbias⟩ :=
          Action.check_convolution_eq_ok_iff.1 hcheck
        obtain ⟨hrows, hcells, hlt, hsize⟩ :=
          Filter.denseWeights?_eq_some_iff.1 hweights
        exact ⟨⟨hpos, hchannels, houtputs, (fun _ heq => by cases heq),
          hdilation, hlies, hsize, hbias⟩, hwords, hfits, hrows, hcells, hlt⟩
    | depthwise layer =>
        obtain ⟨heven, ⟨hpos, hchannels⟩, ⟨houtputs, -⟩, hdilation, -,
            ⟨n, hn, hweights⟩, hbias⟩ :=
          Action.check_depthwise_eq_ok_iff.1 hcheck
        obtain ⟨hrows, rfl⟩ := Size.mul_eq_some_iff.1 hn
        obtain ⟨hcells, hsize⟩ := Size.mul_eq_some_iff.1 hweights
        refine ⟨⟨hpos, hchannels, houtputs, fun _ heq => ?_, hdilation, hlies,
          hsize.symm, hbias⟩, hwords, hfits, hrows, hcells, hcells⟩
        cases heq
        exact heven
  · intro hall
    obtain ⟨hsuits, hwords⟩ := hall
    cases h : Binding.convolve name c.kind c.layer input handle b with
    | ok p b' => exact ⟨p, b', rfl⟩
    | error f b' =>
        have hblames := bind_blames hin f b' h
        cases f with
        | fault => exact absurd hwords hblames
        | error e => exact absurd hsuits hblames.2

end Convolution

-- ============================================================== channels

section

variable {name : String} {b : Bench} {first second : TensorId}

/-- Over two tensors of half its channels a split asks for an even number of
them, and for no less. -/
theorem Split.setup_blames {input : TensorId} {image : Shape}
    (hin : b.arena.shape? input = some image)
    (hfirst : b.arena.shape? first
      = some (image.withChannels (image.channels / 2)))
    (hsecond : b.arena.shape? second
      = some (image.withChannels (image.channels / 2)))
    (hne : first ≠ second)
    (hsuits : suits → 0 < image.channels ∧ image.channels % 2 = 0)
    (hroomy : roomy → image.channels < Size.limit) :
    (Split.setup name input first second).Blames b name suits roomy := by
  refine .shapeOf hin
    (.shapeOf hfirst (.shapeOf hsecond (.ofOutcome ?_ fun _ _ => .of_ok rfl)))
  refine .guard rfl (fun hs => ?_) (.guard rfl (fun _ h => h rfl) ?_)
  · have := hsuits hs
    omega
  refine (Outcome.Blames.ofOption fun hr => ?_).bind fun both hboth => ?_
  · have := hroomy hr
    exact ⟨_, Size.add_eq_some_iff.2
      ⟨by show image.channels / 2 + image.channels / 2 < _; omega,
      rfl⟩⟩
  · obtain ⟨-, rfl⟩ :=
      Size.add_eq_some_iff.1 (Outcome.ofOption_eq_ok_iff.1 hboth)
    refine .guard rfl (fun hs => ?_)
      (.guard rfl (fun _ h => h rfl) (.lastGuard rfl fun _ => ?_))
    · have := hsuits hs
      show ¬image.channels / 2 + image.channels / 2 ≠ image.channels
      omega
    · simpa using hne

/-- An interleave asks for two tensors of one shape that has channels, and
for an output with those of both. -/
theorem Interleave.setup_blames {output : TensorId} {a c : Shape}
    {channels : Nat} (hfirst : b.arena.shape? first = some a)
    (hsecond : b.arena.shape? second = some c)
    (hout : b.arena.shape? output = some (a.withChannels channels))
    (hne : output ≠ first ∧ output ≠ second)
    (hsuits : suits → a = c ∧ 0 < a.channels
      ∧ channels = a.channels + c.channels)
    (hroomy : roomy → a.channels + c.channels < Size.limit) :
    (Interleave.setup name first second output).Blames b name suits roomy := by
  refine .shapeOf hfirst (.shapeOf hsecond (.shapeOf hout
    (.ofOutcome ?_ fun _ _ => .of_ok rfl)))
  refine .guard rfl (fun hs h => h (hsuits hs).1) (.guard rfl (fun hs => ?_) ?_)
  · have := (hsuits hs).2.1
    omega
  refine (Outcome.Blames.ofOption fun hr => ?_).bind fun both hboth => ?_
  · exact ⟨_, Size.add_eq_some_iff.2 ⟨hroomy hr, rfl⟩⟩
  · obtain ⟨-, rfl⟩ :=
      Size.add_eq_some_iff.1 (Outcome.ofOption_eq_ok_iff.1 hboth)
    refine .guard rfl (fun hs h => h ?_) (.lastGuard rfl fun _ => ?_)
    · rw [(hsuits hs).2.2]
    · simpa using hne

/-- The same with room for the output, which is new and so neither of the
two. -/
theorem Interleave.join_blames {β : Type} {a c : Shape} {channels : Nat}
    {g : Interleave → Binding β} (hfirst : b.arena.shape? first = some a)
    (hsecond : b.arena.shape? second = some c)
    (hg : ∀ s t, ∃ x t', g s t = .ok x t') :
    (do
      let output ← Binding.alloc (a.withChannels channels)
      let shuffle ← Interleave.setup name first second output
      g shuffle : Binding β).Blames b name
        (a = c ∧ 0 < a.channels ∧ channels = a.channels + c.channels)
        ((a.withChannels channels).Fits
          ∧ a.channels + c.channels < Size.limit) := by
  refine .alloc (fun hroomy => hroomy.1) ?_
  have hne {id : TensorId} {s : Shape} (hid : b.arena.shape? id = some s) :
      (⟨b.arena.tensors.size⟩ : TensorId) ≠ id := by
    rintro rfl
    exact Nat.lt_irrefl _ (Arena.shape?_eq_some_lt hid)
  refine (Interleave.setup_blames (b :=
    ⟨b.arena.grow [a.withChannels channels], b.events⟩)
    (Arena.shape?_grow_of_some hfirst) (Arena.shape?_grow_of_some hsecond)
    (Arena.shape?_grow_added (i := 0)) ⟨hne hfirst, hne hsecond⟩ id
    fun hroomy => hroomy.2).bind fun s t _ => ?_
  obtain ⟨x, t', hx⟩ := hg s t
  exact .of_ok hx

end

end FireNet
