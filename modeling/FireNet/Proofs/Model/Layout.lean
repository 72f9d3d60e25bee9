/-
The tensors of a declared network, and when it can be bound. Everything is
decided by the architecture and the input: the network is bound if and only
if the input has three channels and at least one pixel and every tensor in
the list below fits, and then these are the tensors of the model.

The stem, the pool and every stage halve the image, rounding up, so the
images after them are the input divided by powers of two (`halvings`).
-/
import FireNet.Proofs.Model.Network
import FireNet.Proofs.Operator.Layout

set_option autoImplicit false

namespace FireNet

-- =============================================================== stages

/-- The tensors of stages in a row; the plan pairs repeats and widths. -/
def Shape.stagesTensors :
    (image : Shape) → (plan : List (Nat × Nat)) → List Shape
  | _, [] => []
  | image, (repeats, width) :: rest =>
    image.stageTensors repeats width ++ (image.halved width).stagesTensors rest

/-- The image after each of the stages. -/
def Shape.stageImages : (image : Shape) → (plan : List (Nat × Nat)) → List Shape
  | _, [] => []
  | image, (_, width) :: rest => image.halved width
      :: (image.halved width).stageImages rest

/-- The image after all of the stages. -/
def Shape.lastImage (image : Shape) (plan : List (Nat × Nat)) : Shape :=
  (image.stageImages plan).getLastD image

variable {handle : Handle}

/-- Declared stages allocate their tensors, and each leaves its image. -/
theorem StagesDeclared.allocates {inputs : Nat} {plan : List (Nat × Nat)}
    {layers : List StageLayers} (h : StagesDeclared inputs plan layers)
    (hinputs : 0 < inputs)
    (hplan : ∀ entry ∈ plan, 0 < entry.2 ∧ entry.2 % 2 = 0) {a : Arena}
    {image : Shape} (himage : image.Paddable) {input : TensorId} {number : Nat}
    (hin : a.shape? input = some image) (hchannels : image.channels = inputs) :
    Allocates (Network.setupStages handle number input layers) a
      (image.stagesTensors plan)
      (fun bound => bound.1.map
        (fun s => (a.grow (image.stagesTensors plan)).shape? s.output)
          = (image.stageImages plan).map some
        ∧ (a.grow (image.stagesTensors plan)).shape? bound.2
          = some (image.lastImage plan)) := by
  induction h generalizing a image input number with
  | nil =>
      refine .pure ⟨rfl, ?_⟩
      rw [Shape.stagesTensors, Arena.grow_nil]
      exact hin
  | @cons inputs repeats width rest s stages first later hs _ ih =>
      obtain ⟨hpos, heven⟩ := hplan _ List.mem_cons_self
      refine .bind (image.stageTensors repeats width)
        (hs.allocates hinputs hpos heven himage hin hchannels)
          fun _ stage hstage => ?_
      refine .bind_last _ (ih hpos (fun entry hentry => hplan entry
        (List.mem_cons_of_mem _ hentry)) (himage.halved width) hstage rfl)
        fun bound hbound => .pure ⟨?_, ?_⟩
      · rw [Shape.stagesTensors, ← Arena.grow_grow, List.map_cons, hbound.1,
          Arena.shape?_grow_of_some hstage]
        rfl
      · rw [Shape.stagesTensors, ← Arena.grow_grow, hbound.2, Shape.lastImage,
          Shape.lastImage, Shape.stageImages, List.getLastD_cons]

-- ============================================================= networks

/-- The image after the pool. -/
def Shape.pooled (input : Shape) (first : Nat) : Shape :=
  (input.halved first).halved first

/-- The tensors of a network: input, stem, pool, the stages, head, mean and
score. -/
def Shape.networkTensors (input : Shape) (first last : Nat)
    (plan : List (Nat × Nat)) : List Shape :=
  input :: input.halved first :: input.pooled first ::
    ((input.pooled first).stagesTensors plan
      ++ [((input.pooled first).lastImage plan).withChannels last, ⟨1, 1, last⟩,
        ⟨1, 1, 1⟩])

/-- The images that the operators of a bound network leave. -/
structure Network.Laid (n : Network) (a : Arena) (input : Shape)
    (first last : Nat) (plan : List (Nat × Nat)) : Prop where
  stem : a.shape? n.stem.output = some (input.halved first)
  pool : a.shape? n.pool.output = some (input.pooled first)
  stages : n.stages.map (fun s => a.shape? s.output)
    = ((input.pooled first).stageImages plan).map some
  head : a.shape? n.head.output
    = some (((input.pooled first).lastImage plan).withChannels last)

/-- Stages in a row keep an image that can be padded, of the width of the
last one. -/
theorem StagesDeclared.lastImage {inputs : Nat} {plan : List (Nat × Nat)}
    {layers : List StageLayers} (h : StagesDeclared inputs plan layers)
    {image : Shape} (himage : image.Paddable)
    (hchannels : image.channels = inputs) :
    (image.lastImage plan).Paddable
      ∧ (image.lastImage plan).channels
        = (inputs :: plan.map Prod.snd).getLastD 0 := by
  induction h generalizing image with
  | nil => exact ⟨himage, hchannels⟩
  | @cons inputs repeats width rest s stages first later _ _ ih =>
      have hlast : image.lastImage ((repeats, width) :: rest)
          = (image.halved width).lastImage rest := by
        rw [Shape.lastImage, Shape.lastImage, Shape.stageImages,
          List.getLastD_cons]
      rw [hlast]
      exact ih (himage.halved width) rfl

variable {p : Parameters} {arch : Architecture} {first last : Nat}
  {middle : List Nat} {inShape : Shape}

/-- The pool of the network fits every image that can be padded. -/
theorem Network.check_pool {image : Shape} (himage : image.Paddable)
    (hchannels : 0 < image.channels) :
    (Action.maxPool Network.poolWindow).check "pool" image
      (image.halved image.channels)
      = .ok () :=
  Action.check_maxPool_eq_ok_iff.2
    ⟨⟨hchannels, rfl⟩, himage.places_halving _, by decide, by decide⟩

/-- A declared network over an image of three channels allocates the tensors
listed. -/
theorem Parameters.Declared.allocates (h : p.Declared arch first last middle)
    (hheight : 0 < inShape.height) (hwidth : 0 < inShape.width)
    (hchannels : inShape.channels = 3) :
    Allocates (Network.setup p inShape handle) Arena.empty
      (inShape.networkTensors first last (arch.repeats.zip middle))
      (·.Laid (Arena.empty.grow
        (inShape.networkTensors first last (arch.repeats.zip middle)))
        inShape first last (arch.repeats.zip middle)) := by
  have hvalid := h.valid
  refine .balanced (.bind_alloc fun hfits => ?_)
  have himage := hfits.paddable hheight hwidth (by omega)
  have hinput : (Arena.empty.grow [inShape]).shape? ⟨Arena.empty.tensors.size⟩
      = some inShape :=
    Arena.shape?_grow_added (i := 0)
  refine .bind [inShape.halved first]
    (h.stem.allocates (inShape.halved first) (by decide)
    hvalid.stem_pos ⟨rfl, rfl⟩ hinput hchannels rfl
      (himage.places_halving first))
    fun _ stem hstem => ?_
  have hstemImage := himage.halved first
  have hstem' : ((Arena.empty.grow [inShape]).grow
    [inShape.halved first]).shape? stem.output
      = some (inShape.halved first) := by
    rw [hstem]
    exact Arena.shape?_grow_added (i := 0)
  refine .bind_shapeOf hstem' (.bind_ofOutcome (Check.windowOutput_eq_ok_iff.2
    (hstemImage.places_halving first)) ?_)
  dsimp only
  rw [h.stem.outputs_eq]
  refine .bind_alloc (s := inShape.pooled first) fun _ => ?_
  have hpooled :
    (((Arena.empty.grow [inShape]).grow [inShape.halved first]).grow
      [inShape.pooled first]).shape?
        ⟨((Arena.empty.grow [inShape]).grow
          [inShape.halved first]).tensors.size⟩
      = some (inShape.pooled first) :=
    Arena.shape?_grow_added (i := 0)
  refine .bind_nil
    (Primitive.setup_allocates (Arena.shape?_grow_of_some hstem') hpooled
    (Network.check_pool hstemImage hvalid.stem_pos)) fun pool hpool => ?_
  refine .bind ((inShape.pooled first).stagesTensors (arch.repeats.zip middle))
    (h.stages.allocates hvalid.stem_pos hvalid.plan_even
      (hstemImage.halved first) hpooled rfl)
    fun _ bound hbound => ?_
  obtain ⟨stages, result⟩ := bound
  obtain ⟨hstages, hresult⟩ := hbound
  refine .bind_shapeOf hresult ?_
  rw [h.head.outputs_eq, h.classifier.outputs_eq]
  -- the head reads the width of the last stage
  have hlast := h.stages.lastImage (hstemImage.halved first) rfl
  rw [List.map_snd_zip (Nat.le_of_eq hvalid.length_eq)] at hlast
  have hheadImage := hlast.1.withChannels last
  refine .bind_alloc fun hheadFits => ?_
  refine .bind_nil
    (Primitive.setup_allocates (Arena.shape?_grow_of_some hresult)
    (Arena.shape?_grow_added (i := 0))
      (h.head.check hvalid.lastWidth_pos hvalid.head_pos
      ⟨rfl, rfl⟩ hlast.2 rfl hlast.1.places_single)) fun head hhead => ?_
  refine .bind_alloc fun hmeanFits => ?_
  refine .bind_nil (Primitive.setup_allocates
    (Arena.shape?_grow_of_some (Arena.shape?_grow_added (i := 0)))
    (Arena.shape?_grow_added (i := 0))
      (Action.check_meanPool hheadFits hheadImage
      hvalid.head_pos)) fun mean _ => ?_
  refine .bind_alloc fun hscoreFits => ?_
  refine .bind_nil (Primitive.setup_allocates
    (Arena.shape?_grow_of_some (Arena.shape?_grow_added (i := 0)))
    (Arena.shape?_grow_added (i := 0))
      (h.classifier.check hvalid.head_pos hmeanFits
      hscoreFits)) fun classifier _ => ?_
  refine .bind_nil .get fun bench _ => .bind_nil .note fun _ _ => ?_
  refine .bind_nil .emit fun _ _ => .pure ?_
  have hgrow : Arena.empty.grow (inShape.networkTensors first last
    (arch.repeats.zip middle))
      = ((((Arena.empty.grow [inShape]).grow [inShape.halved first]).grow
        [inShape.pooled first]).grow
          ((inShape.pooled first).stagesTensors (arch.repeats.zip middle))).grow
            [((inShape.pooled first).lastImage
              (arch.repeats.zip middle)).withChannels last,
              ⟨1, 1, last⟩, ⟨1, 1, 1⟩] := by
    rw [Arena.grow_grow, Arena.grow_grow, Arena.grow_grow, Arena.grow_grow]
    rfl
  rw [hgrow]
  constructor
  · exact Arena.shape?_grow_of_some (Arena.shape?_grow_of_some
      (Arena.shape?_grow_of_some hstem'))
  · show Arena.shape? _ pool.output = _
    rw [hpool]
    exact Arena.shape?_grow_of_some (Arena.shape?_grow_of_some hpooled)
  · exact Arena.map_shape?_grow hstages
  · show Arena.shape? _ head.output = _
    rw [hhead]
    exact Arena.shape?_grow_added (i := 0)

/-- A declared network over such an image is set up when its tensors fit. -/
theorem Parameters.Declared.exists_setup (h : p.Declared arch first last middle)
    (hheight : 0 < inShape.height) (hwidth : 0 < inShape.width)
    (hchannels : inShape.channels = 3)
    (hfits : ∀ s ∈ inShape.networkTensors first last (arch.repeats.zip middle),
      s.Fits)
    (handle : Handle) :
    ∃ model events, Model.setup p inShape handle = (.ok model, events) := by
  have hallocates : Allocates (Network.setup p inShape handle) _ _ _ :=
    h.allocates hheight hwidth hchannels
  obtain ⟨n, b', hbound⟩ :=
    hallocates.succeeds (Bench.ofArena Arena.empty) rfl hfits
  refine ⟨⟨n, b'.arena⟩, b'.events, ?_⟩
  rw [Model.setup, Step.runFrom, hbound]
  rfl

/-- The tensors of a network of an architecture. -/
def Architecture.tensorShapes (a : Architecture) (input : Shape) : List Shape :=
  input.networkTensors (a.widths.headD 0) (a.widths.getLastD 0)
    (a.repeats.zip a.stageWidths)

/-- The shapes that an architecture lists are those of its network. -/
theorem Architecture.Valid.tensorShapes_eq (h : arch.Valid first last middle) :
    arch.tensorShapes inShape
      = inShape.networkTensors first last (arch.repeats.zip middle) := by
  rw [tensorShapes, h.headD_widths, h.getLastD_widths, h.stageWidths_eq]

end FireNet
