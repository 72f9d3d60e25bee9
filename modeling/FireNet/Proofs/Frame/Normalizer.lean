/-
Normalizers show nothing of what they hold. For a frame there is one
outcome, values or failure, whatever bytes an earlier frame left and
whatever the output buffer held; and a normalizer that failed is as good
as before. Which frames come out is known too: those of three channels and
at least one pixel.

All of it is read off one equation: a run is its checks, then the resize,
then the spreading (`run_eq_checks`).
-/
import FireNet.Frame.Normalizer
import FireNet.Proofs.Arena
import FireNet.Proofs.Kernel.Bilinear

set_option autoImplicit false

namespace FireNet

/-- A shape that frames are brought to: of three channels, not empty, and
within the words. -/
structure Shape.Picture (s : Shape) : Prop where
  channels_eq : s.channels = rgbChannels
  height_pos : 0 < s.height
  width_pos : 0 < s.width
  size?_eq : s.size? = some s.volume

namespace Normalizer

/-- The output is of a shape, and the bytes are as many. -/
structure Sized (n : Normalizer) (shape : Shape) : Prop where
  output_eq : n.output = shape
  size_eq : n.resized.size = shape.volume

variable {n : Normalizer} {shape : Shape} {frame : Tensor UInt8}
  {out : Array Single}

/-- What is created is of its size. -/
theorem create_eq_ok_iff {height width : Nat} :
    create height width = .ok n ↔
      (0 < height ∧ 0 < width)
        ∧ (Shape.mk height width rgbChannels).size?
          = some (Shape.mk height width rgbChannels).volume
        ∧ (Shape.mk height width rgbChannels).volume * Element.bytes UInt8
          ≤ Size.maxBytes
        ∧ n = ⟨⟨height, width, rgbChannels⟩,
            Array.replicate (Shape.mk height width rgbChannels).volume 0⟩ := by
  simp only [create, Outcome.guard_eq_ok_iff, Outcome.bind_eq_ok_iff,
    Outcome.ofOption_eq_ok_iff,
    Tensor.zeros?, zeros?, Option.bind_eq_bind, Option.bind_eq_some_iff,
    Option.ite_none_right_eq_some, Option.some.injEq, Outcome.pure_eq_ok_iff]
  constructor
  · intro hall
    obtain ⟨hpos, _, ⟨size, hsize, _, ⟨hle, rfl⟩, rfl⟩, rfl⟩ := hall
    obtain ⟨-, -, rfl⟩ := Shape.size?_eq_some_iff.1 hsize
    exact ⟨by omega, hsize, hle, rfl⟩
  · intro hall
    obtain ⟨hpos, hsize, hle, rfl⟩ := hall
    exact ⟨by omega, _, ⟨_, hsize, _, ⟨hle, rfl⟩, rfl⟩, rfl⟩

/-- Bytes of the right number spread over any output of the right length, and
give one result. -/
theorem exists_spread? (hshape : shape.channels = rgbChannels)
    (hn : n.Sized shape) :
    ∃ r : Array Single, r.size = shape.volume ∧
      ∀ out : Array Single,
        out.size = shape.volume → n.spread? out = some r := by
  obtain ⟨rfl, hsize⟩ := hn
  refine Kernel.paint?_complete _ _ _ _ (by rw [← hshape]; rfl) fun p hp =>
    ⟨p, rfl, fun c hc => ?_⟩
  have hlt : p * rgbChannels + c < n.resized.size := by
    have := run_le (n := rgbChannels) hp
    rw [hsize, Shape.volume, hshape]
    omega
  rw [Array.getElem?_eq_getElem hlt]
  rfl

/-- What a run checks before it reads or writes anything. -/
def checks (output image : Shape) (given : Nat) : Outcome Unit := do
  if image.channels ≠ rgbChannels then
    refuse (Error.config op (.notRgb image))
  if (← Outcome.ofOption image.size?) = 0 then
    refuse (Error.config op (.emptyFrame image))
  if given ≠ output.volume then
    refuse (Error.config op (.destination given output.volume))

/-- All that is asked of a frame and its destination. -/
theorem checks_eq_ok_iff {output image : Shape} {given : Nat} :
    checks output image given = .ok () ↔ image.channels = rgbChannels
      ∧ (∃ size, image.size? = some size ∧ size ≠ 0)
        ∧ given = output.volume := by
  simp only [checks, Outcome.guard_eq_ok_iff, Outcome.bind_eq_ok_iff,
    Outcome.ofOption_eq_ok_iff,
    Outcome.lastGuard_eq_ok_iff, ne_eq, Decidable.not_not]
  constructor
  · intro hall
    obtain ⟨hchannels, size, hsize, hpos, hgiven⟩ := hall
    exact ⟨hchannels, ⟨size, hsize, hpos⟩, hgiven⟩
  · intro hall
    obtain ⟨hchannels, ⟨size, hsize, hpos⟩, hgiven⟩ := hall
    exact ⟨hchannels, size, hsize, hpos, hgiven⟩

/-- A run is its checks, the resize and the spreading. -/
theorem run_eq_checks (hshape : shape.Picture) (hn : n.Sized shape)
    (frame : Tensor UInt8) (out : Array Single) :
    run frame out n = (do
      Step.ofOutcome (checks shape frame.shape out.size)
      let resized ←
        Step.ofOption (Kernel.resize? frame.data frame.shape shape n.resized)
      set (⟨shape, resized⟩ : Normalizer)
      Step.ofOption ((⟨shape, resized⟩ : Normalizer).spread? out) :
        Step Normalizer (Array Single)) n := by
  unfold run checks
  rw [Step.get_bind, hn.output_eq, hshape.size?_eq]
  by_cases hchannels : frame.shape.channels ≠ rgbChannels
  · rw [if_pos hchannels, if_pos hchannels]
    rfl
  · rw [if_neg hchannels, if_neg hchannels]
    cases hsize : frame.shape.size? with
    | none => rfl
    | some size =>
        show (if size = 0 then _ else _ : Step Normalizer (Array Single)) n
          = (Step.ofOutcome (if size = 0 then _ else _) >>= _) n
        by_cases hempty : size = 0
        · rw [if_pos hempty, if_pos hempty]
          rfl
        · rw [if_neg hempty, if_neg hempty, Step.some_bind]
          by_cases hout : out.size ≠ shape.volume
          · rw [if_pos hout, if_pos hout]
            rfl
          · rw [if_neg hout, if_neg hout]
            rfl

/-- For a frame there is one outcome: the normalizer and the output do not
show in it, and the normalizer stays of its size. -/
theorem run_outcome (hshape : shape.Picture) (frame : Tensor UInt8) :
    ∃ outcome : Outcome (Array Single),
      (∀ values, outcome = .ok values → values.size = shape.volume) ∧
        ∀ (n : Normalizer) (out : Array Single),
          n.Sized shape → out.size = shape.volume →
          ∃ n', (run frame out).runFrom n = (outcome, n') ∧ n'.Sized shape := by
  cases hchecks : checks shape frame.shape shape.volume with
  | error e =>
      refine ⟨.error e, nofun, fun n out hn hout =>
        ⟨n, Step.runFrom_eq_error_iff.2 ?_, hn⟩⟩
      rw [run_eq_checks hshape hn, hout, hchecks]
      rfl
  | ok _ =>
      obtain ⟨resized, hresizedSize, hresize⟩ :=
        Kernel.resize?_outcome frame.data
          frame.shape hshape.height_pos hshape.width_pos hshape.size?_eq
      cases resized with
      | none =>
          refine ⟨.error .fault, nofun, fun n out hn hout =>
            ⟨n, Step.runFrom_eq_error_iff.2 ?_, hn⟩⟩
          rw [run_eq_checks hshape hn, hout, hchecks, hresize _ hn.size_eq]
          rfl
      | some bytes =>
          have hbytes : (⟨shape, bytes⟩ : Normalizer).Sized shape :=
            ⟨rfl, hresizedSize bytes rfl⟩
          obtain ⟨values, hvalues, hspread⟩ :=
            exists_spread? hshape.channels_eq hbytes
          refine ⟨.ok values, fun v hv => ?_, fun n out hn hout =>
            ⟨⟨shape, bytes⟩, Step.runFrom_eq_ok_iff.2 ?_, hbytes⟩⟩
          · cases hv
            exact hvalues
          · rw [run_eq_checks hshape hn, hout, hchecks, hresize _ hn.size_eq]
            exact Step.ofOption_eq_ok_iff.2 ⟨hspread out hout, rfl⟩

/-- A frame whose bytes are those of its shape comes out exactly when it has
three channels and a pixel. -/
theorem run_eq_ok_iff (hshape : shape.Picture) (hn : n.Sized shape)
    (hrows : shape.height * Kernel.Sample.bytes ≤ Size.maxBytes)
    (hcolumns : shape.width * Kernel.Sample.bytes ≤ Size.maxBytes)
    (hout : out.size = shape.volume)
    (hframe : frame.shape.size? = some frame.data.size) :
    (∃ values n', run frame out n = .ok values n') ↔
      frame.shape.channels = rgbChannels ∧ 1 ≤ frame.shape.height
        ∧ 1 ≤ frame.shape.width := by
  obtain ⟨-, -, hvolume⟩ := Shape.size?_eq_some_iff.1 hframe
  constructor
  · intro hall
    obtain ⟨values, n', h⟩ := hall
    simp only [run, Step.bind_eq_ok_iff, Step.get_eq_ok_iff,
      Step.guard_eq_ok_iff,
      Step.ofOption_eq_ok_iff, ne_eq, Decidable.not_not] at h
    obtain ⟨_, _, ⟨rfl, rfl⟩, hchannels, size, _, ⟨hsize, rfl⟩, hpos, -⟩ := h
    rw [hframe] at hsize
    cases hsize
    rw [← hvolume, Shape.volume] at hpos
    have hheight : frame.shape.height ≠ 0 := fun h => hpos (by rw [h]; simp)
    have hwidth : frame.shape.width ≠ 0 := fun h => hpos (by rw [h]; simp)
    exact ⟨hchannels, Nat.pos_of_ne_zero hheight, Nat.pos_of_ne_zero hwidth⟩
  · intro hall
    obtain ⟨hchannels, hheight, hwidth⟩ := hall
    have hpos : frame.data.size ≠ 0 := by
      rw [← hvolume, Shape.volume, hchannels]
      have := Nat.mul_pos hheight hwidth
      show _ * 3 ≠ 0
      omega
    obtain ⟨bytes, hbytes, hresize⟩ :=
      Kernel.exists_resize? hframe hheight hwidth
        (hchannels.trans hshape.channels_eq.symm) hshape.size?_eq hrows hcolumns
    have hsized : (⟨shape, bytes⟩ : Normalizer).Sized shape := ⟨rfl, hbytes⟩
    obtain ⟨values, -, hspread⟩ := exists_spread? hshape.channels_eq hsized
    refine ⟨values, ⟨shape, bytes⟩, ?_⟩
    rw [run_eq_checks hshape hn, checks_eq_ok_iff.2
      ⟨hchannels, ⟨_, hframe, hpos⟩, hout⟩, hresize _ hn.size_eq]
    exact Step.ofOption_eq_ok_iff.2 ⟨hspread out hout, rfl⟩

/-- A tensor of its own is made of zeros, and written over. -/
theorem process_of_fits (hn : n.Sized shape) (hfits : shape.Fits)
    {outcome : Outcome (Array Single)} {n' : Normalizer}
    (h : (run frame (Tensor.blank shape).data).runFrom n = (outcome, n')) :
    (process frame).runFrom n
      = (outcome.map fun values => ⟨shape, values⟩, n') := by
  have hzeros : Tensor.zeros? n.output = some (Tensor.blank shape) := by
    rw [hn.output_eq]
    exact Tensor.zeros?_eq_some_iff.2 ⟨hfits, rfl⟩
  unfold process Step.runFrom
  rw [Step.get_bind, hzeros, Step.some_bind, hn.output_eq]
  cases outcome with
  | error e =>
      rw [Step.bind_of_error (Step.runFrom_eq_error_iff.1 h)]
      rfl
  | ok values =>
      rw [Step.bind_of_ok (Step.runFrom_eq_ok_iff.1 h)]
      rfl

end Normalizer

end FireNet
