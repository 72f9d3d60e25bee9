/-
Calls to one normalizer, one after another. A caller passes a buffer to be
written over, or asks for a tensor of its own; calls are refused, fault, or
come out, and the normalizer is used again after each.

`Normalizer.run` takes the buffer and gives it back. Here the buffer stays
on the caller's desk and every value is a write of its own (`Desk.run`), so
that a call which ends early would leave what it wrote. Both agree, and as
all checks come before the first write, a call that does not come out has
written nothing.

What an answer depends on is told by `serve_alike`: two normalizers of one
size answer a call alike, whatever bytes they hold, and are of that size
afterwards. So the history of a normalizer shows in no answer.
-/
import FireNet.Proofs.Frame.Normalizer
import FireNet.Proofs.Kernel.Resampling

set_option autoImplicit false

namespace FireNet

/-- A normalizer, and the buffer that it is to write over. -/
structure Desk where
  normalizer : Normalizer
  destination : Array Single

namespace Normalizer

variable {n : Normalizer} {shape : Shape} {frame : Tensor UInt8}
  {out : Array Single}

-- =============================================================== checks

/-- Why a run does not take a frame, or a buffer of `given` values. -/
def refusal? (output image : Shape) (given : Nat) : Option Reason :=
  if image.channels ≠ rgbChannels then some (.notRgb image)
  else if image.volume = 0 then some (.emptyFrame image)
  else if given ≠ output.volume then some (.destination given output.volume)
  else none

/-- A call is not refused when its frame has three channels and a pixel, and
its destination the right length. -/
theorem refusal?_eq_none_iff {output image : Shape} {given : Nat} :
    refusal? output image given = none ↔
      image.channels = rgbChannels ∧ image.volume ≠ 0
        ∧ given = output.volume := by
  unfold refusal?
  split_ifs <;> simp_all

/-- Of a frame with a size, a check that fails says why. -/
theorem checks_eq {output image : Shape} {given : Nat}
    (h : image.size? = some image.volume) :
    checks output image given =
      match refusal? output image given with
      | some reason => .error (.error (.config op reason))
      | none => .ok () := by
  unfold checks refusal?
  rw [h]
  by_cases hchannels : image.channels ≠ rgbChannels
  · rw [if_pos hchannels, if_pos hchannels]
    rfl
  · rw [if_neg hchannels, if_neg hchannels]
    show (if image.volume = 0 then _ else _) = _
    by_cases hempty : image.volume = 0
    · rw [if_pos hempty, if_pos hempty]
      rfl
    · rw [if_neg hempty, if_neg hempty]
      by_cases hgiven : given ≠ output.volume
      · rw [if_pos hgiven, if_pos hgiven]
        rfl
      · rw [if_neg hgiven, if_neg hgiven]
        rfl

-- =============================================================== values

/-- What becomes of byte `i` of the resized frame. -/
def valueAt (n : Normalizer) (i : Nat) : Single :=
  Single.ofByte (n.resized.getD i 0) * scale (i % rgbChannels)
    + offset (i % rgbChannels)

/-- Spreading writes every value once, in order. -/
theorem spread?_eq_writeAll (hshape : shape.channels = rgbChannels)
    (hn : n.Sized shape) (hout : out.size = shape.volume) :
    n.spread? out
      = some (Kernel.writeAll
        ((List.range shape.volume).map fun i => (i, n.valueAt i)) out) := by
  obtain ⟨rfl, hsize⟩ := hn
  have hvolume :
      n.output.volume = n.output.height * n.output.width * rgbChannels := by
    rw [Shape.volume, hshape]
  have hwrites : (List.range n.output.volume).map (fun i => (i, n.valueAt i))
      = (List.range (n.output.height * n.output.width)).flatMap fun p =>
          (List.range rgbChannels).map fun c =>
            (p * rgbChannels + c, n.valueAt (p * rgbChannels + c)) := by
    rw [hvolume, range_rowMajor, List.map_flatMap]
    simp only [List.map_map]
    rfl
  rw [hwrites]
  refine Kernel.paint?_eq_writeAll _ out
    (Nat.le_of_eq (by rw [hout, hvolume])) fun p hp =>
    ⟨p, rfl, fun c hc => ?_⟩
  have hlt : p * rgbChannels + c < n.resized.size := by
    rw [hsize, hvolume]
    exact rowMajor_lt hp hc
  rw [valueAt, Nat.mul_add_mod_of_lt hc, Array.getD_eq_getD_getElem?,
    Array.getElem?_eq_getElem hlt]
  rfl

end Normalizer

namespace Desk

/-- Writes one value over the destination. -/
def store (i : Nat) : Step Desk Unit := do
  let d ← get
  let byte ← Step.ofOption d.normalizer.resized[i]?
  let channel := i % rgbChannels
  let value :=
    Single.ofByte byte * Normalizer.scale channel + Normalizer.offset channel
  set { d with destination := d.destination.setIfInBounds i value }

/-- Writes the normalised frame over the destination, in place. -/
def run (frame : Tensor UInt8) : Step Desk Unit := do
  let d ← get
  let n := d.normalizer
  Step.ofOutcome (Normalizer.checks n.output frame.shape d.destination.size)
  let resized ←
    Step.ofOption (Kernel.resize? frame.data frame.shape n.output n.resized)
  set (⟨⟨n.output, resized⟩, d.destination⟩ : Desk)
  (List.range n.output.volume).forM store

/-- The values of bytes that are there are written one by one. -/
theorem forM_store (l : List Nat) (d : Desk)
    (h : ∀ i ∈ l, i < d.normalizer.resized.size) :
    l.forM store d = .ok () ⟨d.normalizer,
      Kernel.writeAll (l.map fun i => (i, d.normalizer.valueAt i))
        d.destination⟩ := by
  induction l generalizing d with
  | nil => rfl
  | cons i l ih =>
      have hi := h i List.mem_cons_self
      have hstore : store i d = .ok () ⟨d.normalizer,
          d.destination.setIfInBounds i (d.normalizer.valueAt i)⟩ := by
        unfold store
        rw [Step.get_bind, Array.getElem?_eq_getElem hi, Step.some_bind,
          Normalizer.valueAt, Array.getD_eq_getD_getElem?,
          Array.getElem?_eq_getElem hi, Option.getD_some]
        rfl
      show (store i >>= fun _ => l.forM store) d = _
      rw [Step.bind_of_ok hstore]
      exact ih _ fun j hj => h j (List.mem_cons_of_mem i hj)

variable {n : Normalizer} {shape : Shape}

/-- In place or not, a run ends the same; only a run that comes out leaves
other values. -/
theorem run_eq (hshape : shape.Picture) (hn : n.Sized shape)
    (frame : Tensor UInt8) (out : Array Single) :
    (run frame).runFrom ⟨n, out⟩ =
      match (Normalizer.run frame out).runFrom n with
      | (.ok values, n') => (.ok (), ⟨n', values⟩)
      | (.error e, n') => (.error e, ⟨n', out⟩) := by
  have hdesk : run frame ⟨n, out⟩ = (do
      Step.ofOutcome (Normalizer.checks shape frame.shape out.size)
      let resized ←
        Step.ofOption (Kernel.resize? frame.data frame.shape shape n.resized)
      set (⟨⟨shape, resized⟩, out⟩ : Desk)
      (List.range shape.volume).forM store : Step Desk Unit) ⟨n, out⟩ := by
    unfold run
    rw [Step.get_bind, hn.output_eq]
  have hrun := Normalizer.run_eq_checks hshape hn frame out
  -- both begin with the same checks, and only past them do they differ
  cases hchecks : Normalizer.checks shape frame.shape out.size with
  | error e =>
      rw [hchecks] at hdesk hrun
      rw [Step.runFrom_eq_error_iff.2 hrun]
      exact Step.runFrom_eq_error_iff.2 hdesk
  | ok _ =>
      have hout := (Normalizer.checks_eq_ok_iff.1 hchecks).2.2
      obtain ⟨outcome, hbytes, hresize⟩ :=
        Kernel.resize?_outcome frame.data frame.shape
          hshape.height_pos hshape.width_pos hshape.size?_eq
      rw [hchecks, hresize _ hn.size_eq] at hdesk hrun
      cases outcome with
      | none =>
          rw [Step.runFrom_eq_error_iff.2 hrun]
          exact Step.runFrom_eq_error_iff.2 hdesk
      | some bytes =>
          have hsized : (⟨shape, bytes⟩ : Normalizer).Sized shape :=
            ⟨rfl, hbytes bytes rfl⟩
          have hspread :=
            Normalizer.spread?_eq_writeAll hshape.channels_eq hsized hout
          have hstores :=
            forM_store (List.range shape.volume) ⟨⟨shape, bytes⟩, out⟩
              fun i hi => by rw [hbytes bytes rfl]; exact List.mem_range.1 hi
          rw [Step.runFrom_eq_ok_iff.2
            (hrun.trans (Step.ofOption_eq_ok_iff.2 ⟨hspread, rfl⟩))]
          exact Step.runFrom_eq_ok_iff.2 (hdesk.trans hstores)

end Desk

namespace Normalizer

variable {n : Normalizer} {shape : Shape} {frame : Tensor UInt8}
  {out : Array Single}

-- ============================================================= one run

/-- A refused run leaves the normalizer as it was. -/
theorem run_of_refusal {reason : Reason} (hshape : shape.Picture)
    (hn : n.Sized shape) (hframe : frame.shape.size? = some frame.shape.volume)
    (h : refusal? shape frame.shape out.size = some reason) :
    (run frame out).runFrom n = (.error (.error (.config op reason)), n) := by
  apply Step.runFrom_eq_error_iff.2
  rw [run_eq_checks hshape hn, checks_eq hframe, h]
  rfl

/-- Each byte of an image, scaled and moved as its channel is. -/
def Normalised (bytes : Tensor UInt8) (values : Tensor Single) : Prop :=
  ∀ y < bytes.shape.height, ∀ x < bytes.shape.width, ∀ channel < rgbChannels,
    ∃ byte, bytes.value? y x channel = some byte
      ∧ values.value? y x channel
        = some (Single.ofByte byte * scale channel + offset channel)

/-- Spreading writes the formula of the resized bytes. -/
theorem normalised_of_spread? (hshape : shape.channels = rgbChannels)
    (hn : n.Sized shape) {values : Array Single}
    (h : n.spread? out = some values) :
    Normalised ⟨shape, n.resized⟩ ⟨shape, values⟩ := by
  obtain ⟨rfl, hsize⟩ := hn
  intro y hy x hx channel hchannel
  have hplace := rowMajor_lt hy hx
  have hlt : (y * n.output.width + x) * n.output.channels + channel
      < n.resized.size := by
    rw [hsize]
    exact rowMajor_lt hplace (hshape ▸ hchannel)
  refine ⟨_, Array.getElem?_eq_getElem hlt, ?_⟩
  have hvalue := Kernel.paint?_cell h hplace hchannel
  simp only [hshape] at hlt
  rw [Option.bind_some, Array.getElem?_eq_getElem hlt] at hvalue
  simp only [Tensor.value?, hshape]
  exact hvalue

/-- A run that is not refused comes out, unless the samples of an axis
cannot be tabulated. -/
theorem run_of_accepted (hshape : shape.Picture) (hn : n.Sized shape)
    (hframe : frame.shape.size? = some frame.data.size)
    (h : refusal? shape frame.shape out.size = none) :
    if shape.Tabulated then
      ∃ (bytes : Array UInt8) (values : Array Single),
        (∀ old : Array UInt8, old.size = shape.volume →
          Kernel.resize? frame.data frame.shape shape old = some bytes)
        ∧ (run frame out).runFrom n = (.ok values, ⟨shape, bytes⟩)
        ∧ values.size = shape.volume ∧ Normalised ⟨shape, bytes⟩ ⟨shape, values⟩
    else (run frame out).runFrom n = (.error .fault, n) := by
  obtain ⟨hchannels, hvolume, hout⟩ := refusal?_eq_none_iff.1 h
  obtain ⟨-, -, hdata⟩ := Shape.size?_eq_some_iff.1 hframe
  have hheight : 1 ≤ frame.shape.height :=
    Nat.pos_of_ne_zero fun h => hvolume (by rw [Shape.volume, h]; simp)
  have hwidth : 1 ≤ frame.shape.width :=
    Nat.pos_of_ne_zero fun h => hvolume (by rw [Shape.volume, h]; simp)
  have hkept : shape.channels = frame.shape.channels :=
    hshape.channels_eq.trans hchannels.symm
  have hchecks : checks shape frame.shape out.size = .ok () := by
    rw [checks_eq (hdata ▸ hframe), h]
  split_ifs with htables
  · obtain ⟨bytes, hbytes, hresize⟩ :=
      Kernel.exists_resize? hframe hheight hwidth hkept.symm
        hshape.size?_eq htables.1 htables.2
    have hsized : (⟨shape, bytes⟩ : Normalizer).Sized shape := ⟨rfl, hbytes⟩
    obtain ⟨values, hvalues, hspread⟩ :=
      exists_spread? hshape.channels_eq hsized
    refine ⟨bytes, values, hresize, ?_, hvalues,
      normalised_of_spread? hshape.channels_eq hsized (hspread out hout)⟩
    apply Step.runFrom_eq_ok_iff.2
    rw [run_eq_checks hshape hn, hchecks, hresize _ hn.size_eq]
    exact Step.ofOption_eq_ok_iff.2 ⟨hspread out hout, rfl⟩
  · apply Step.runFrom_eq_error_iff.2
    rw [run_eq_checks hshape hn, hchecks,
      Kernel.resize?_eq_writeAll hframe hheight hwidth hkept,
      if_neg fun hgo => htables hgo.2]
    rfl

/-- A frame that is not as long as its shape says ends a run, if the checks
do not. -/
theorem run_of_other_bytes (hshape : shape.Picture) (hn : n.Sized shape)
    (hframe : frame.shape.size? ≠ some frame.data.size) (out : Array Single) :
    ∃ e, (run frame out).runFrom n = (.error e, n) := by
  cases hchecks : checks shape frame.shape out.size with
  | error e =>
      refine ⟨e, Step.runFrom_eq_error_iff.2 ?_⟩
      rw [run_eq_checks hshape hn, hchecks]
      rfl
  | ok _ =>
      refine ⟨.fault, Step.runFrom_eq_error_iff.2 ?_⟩
      rw [run_eq_checks hshape hn, hchecks, Kernel.resize?_eq_none hframe]
      rfl

/-- A frame and a buffer decide how a run ends. -/
theorem run_alike (hshape : shape.Picture) (frame : Tensor UInt8)
    (out : Array Single) :
    ∃ outcome : Outcome (Array Single), ∀ n : Normalizer, n.Sized shape →
      ∃ n', (run frame out).runFrom n = (outcome, n') ∧ n'.Sized shape := by
  by_cases hout : out.size = shape.volume
  · obtain ⟨outcome, -, h⟩ := run_outcome hshape frame
    exact ⟨outcome, fun n hn => h n out hn hout⟩
  · -- a buffer of another length ends every run before the resize
    cases hchecks : checks shape frame.shape out.size with
    | ok _ => exact absurd (checks_eq_ok_iff.1 hchecks |>.2.2) hout
    | error e =>
        refine ⟨.error e, fun n hn => ⟨n, Step.runFrom_eq_error_iff.2 ?_, hn⟩⟩
        rw [run_eq_checks hshape hn, hchecks]
        rfl

/-- Where the output cannot exist, nothing is done. -/
theorem process_of_not_fits (hn : n.Sized shape) (hfits : ¬shape.Fits) :
    (process frame).runFrom n = (.error .fault, n) := by
  have hzeros : (Tensor.zeros? n.output : Option (Tensor Single)) = none := by
    rw [Option.eq_none_iff_forall_ne_some]
    intro t ht
    rw [hn.output_eq] at ht
    exact hfits (Tensor.zeros?_eq_some_iff.1 ht).1
  apply Step.runFrom_eq_error_iff.2
  unfold process
  rw [Step.get_bind, hzeros, Step.none_bind]

-- ============================================================ histories

/-- What a normalizer is asked for. -/
inductive Call where
  /-- The frame over a buffer of the caller. -/
  | onto (frame : Tensor UInt8) (destination : Array Single)
  /-- The frame as a tensor of its own. -/
  | fresh (frame : Tensor UInt8)

/-- What the caller has afterwards. -/
inductive Answer where
  | left (outcome : Outcome Unit) (destination : Array Single)
  | made (outcome : Outcome (Tensor Single))

/-- The answer to a call over a buffer, from how its run ends. -/
def Answer.ofRun (destination : Array Single) : Outcome (Array Single) → Answer
  | .ok values => .left (.ok ()) values
  | .error e => .left (.error e) destination

/-- One call: its answer, and the normalizer afterwards. -/
def serve (n : Normalizer) : Call → Answer × Normalizer
  | .onto frame destination =>
    let (outcome, d) := (Desk.run frame).runFrom ⟨n, destination⟩
    (.left outcome d.destination, d.normalizer)
  | .fresh frame =>
    let (outcome, n) := (process frame).runFrom n
    (.made outcome, n)

/-- The normalizer after some calls. -/
def after (n : Normalizer) (history : List Call) : Normalizer :=
  history.foldl (fun n c => (n.serve c).2) n

/-- A call on a destination is a run. -/
theorem serve_onto {outcome : Outcome (Array Single)} {n' : Normalizer}
    (hshape : shape.Picture) (hn : n.Sized shape)
    (h : (run frame out).runFrom n = (outcome, n')) :
    n.serve (.onto frame out) = (.ofRun out outcome, n') := by
  rw [serve, Desk.run_eq hshape hn, h]
  cases outcome with
  | ok values => rfl
  | error e => rfl

/-- Normalizers of one size answer alike, and keep their size. -/
theorem serve_alike (hshape : shape.Picture) (c : Call) :
    ∃ answer, ∀ n : Normalizer, n.Sized shape → ∃ n',
      n.serve c = (answer, n') ∧ n'.Sized shape := by
  cases c with
  | onto frame out =>
      obtain ⟨outcome, halike⟩ := run_alike hshape frame out
      refine ⟨.ofRun out outcome, fun n hn => ?_⟩
      obtain ⟨n', hrun, hn'⟩ := halike n hn
      exact ⟨n', serve_onto hshape hn hrun, hn'⟩
  | fresh frame =>
      by_cases hfits : shape.Fits
      · obtain ⟨outcome, halike⟩ :=
          run_alike hshape frame (Tensor.blank shape).data
        refine ⟨.made (outcome.map fun values => ⟨shape, values⟩),
          fun n hn => ?_⟩
        obtain ⟨n', hrun, hn'⟩ := halike n hn
        exact ⟨n', by rw [serve, process_of_fits hn hfits hrun], hn'⟩
      · exact ⟨.made (.error .fault), fun n hn =>
          ⟨n, by rw [serve, process_of_not_fits hn hfits], hn⟩⟩

/-- A history leaves a normalizer of the same size. -/
theorem after_sized (hshape : shape.Picture) (hn : n.Sized shape)
    (history : List Call) :
    (n.after history).Sized shape := by
  induction history generalizing n with
  | nil => exact hn
  | cons c history ih =>
      obtain ⟨answer, halike⟩ := serve_alike hshape c
      obtain ⟨n', hserve, hn'⟩ := halike n hn
      have hnext : (n.serve c).2.Sized shape := by
        rw [hserve]
        exact hn'
      exact ih hnext

/-- Whatever a normalizer was called for before, it answers a call as when
it was new. A run that is refused leaves it as it was, and the buffer too;
one that is not writes over the whole buffer what the resize of this frame
is normalised to, and only samples that cannot be tabulated end it earlier,
with nothing written. Nor does a frame leave anything that has other bytes
than its shape says. A tensor of its own holds what such a buffer does. -/
theorem calls_answered_alone {height width : Nat} {n : Normalizer}
    (hn : create height width = .ok n) (history : List Call)
    (frame : Tensor UInt8) (out : Array Single) :
    n.output = ⟨height, width, rgbChannels⟩
    ∧ (∀ c, ((n.after history).serve c).1 = (n.serve c).1)
    ∧ (frame.shape.size? = some frame.data.size →
      (∀ reason, refusal? n.output frame.shape out.size = some reason →
        (n.after history).serve (.onto frame out)
          = (.left (.error (.error (.config op reason))) out, n.after history))
      ∧ (refusal? n.output frame.shape out.size = none →
        if n.output.Tabulated then
          ∃ (bytes : Array UInt8) (values : Array Single),
            (∀ old : Array UInt8, old.size = n.output.volume →
              Kernel.resize? frame.data frame.shape n.output old = some bytes)
            ∧ ((n.after history).serve (.onto frame out)).1
              = .left (.ok ()) values
            ∧ values.size = n.output.volume
            ∧ Normalised ⟨n.output, bytes⟩ ⟨n.output, values⟩
        else (n.after history).serve (.onto frame out)
          = (.left (.error .fault) out, n.after history)))
    ∧ (frame.shape.size? ≠ some frame.data.size →
      ∃ e, (n.after history).serve (.onto frame out) = (.left (.error e) out,
        n.after history))
    ∧ if n.output.Fits then
        out.size = n.output.volume →
          ∃ outcome values,
            ((n.after history).serve (.onto frame out)).1 = .left outcome values
            ∧ ((n.after history).serve (.fresh frame)).1
              = .made (outcome.map fun _ => ⟨n.output, values⟩)
      else
        (n.after history).serve (.fresh frame)
          = (.made (.error .fault), n.after history) := by
  obtain ⟨hpos, hsize, -, hfields⟩ := create_eq_ok_iff.1 hn
  have hshape : (Shape.mk height width rgbChannels).Picture :=
    ⟨rfl, hpos.1, hpos.2, hsize⟩
  have hnew : n.Sized ⟨height, width, rgbChannels⟩ := by
    rw [hfields]
    exact ⟨rfl, Array.size_replicate⟩
  have hafter := after_sized hshape hnew history
  -- both normalizers are sized alike, and an answer sees no more of them
  rw [hnew.output_eq]
  refine ⟨rfl, fun c => ?_, fun hframe =>
    ⟨fun reason hreason => ?_, fun hnone => ?_⟩,
    fun hframe => ?_, ?_⟩
  · obtain ⟨answer, halike⟩ := serve_alike hshape c
    obtain ⟨_, hserve, -⟩ := halike _ hafter
    obtain ⟨_, hserveNew, -⟩ := halike _ hnew
    rw [hserve, hserveNew]
  · obtain ⟨-, -, hvolume⟩ := Shape.size?_eq_some_iff.1 hframe
    exact serve_onto hshape hafter
      (run_of_refusal hshape hafter (hvolume ▸ hframe) hreason)
  · have hrun := run_of_accepted hshape hafter hframe hnone
    split_ifs at hrun ⊢ with htables
    · obtain ⟨bytes, values, hresize, hrun, hvalues, hnormalised⟩ := hrun
      exact ⟨bytes, values, hresize, by
        rw [serve_onto hshape hafter hrun]; rfl, hvalues, hnormalised⟩
    · exact serve_onto hshape hafter hrun
  · obtain ⟨e, hrun⟩ := run_of_other_bytes hshape hafter hframe out
    exact ⟨e, serve_onto hshape hafter hrun⟩
  · split_ifs with hfits
    · intro hout
      obtain ⟨outcome, -, halike⟩ := run_outcome hshape frame
      obtain ⟨_, hrun, -⟩ := halike _ out hafter hout
      obtain ⟨_, hrunBlank, -⟩ :=
        halike _ (Tensor.blank _).data hafter Array.size_replicate
      rw [serve_onto hshape hafter hrun, serve,
        process_of_fits hafter hfits hrunBlank]
      cases outcome with
      | ok values => exact ⟨.ok (), values, rfl, rfl⟩
      | error e => exact ⟨.error e, out, rfl, rfl⟩
    · rw [serve, process_of_not_fits hafter hfits]

/-- A frame of one pixel over a buffer of one, after a frame of two that was
given to a normalizer of one. -/
theorem calls_answered_alone_pixel :
    ∃ n : Normalizer, create 1 1 = .ok n ∧ ∃ values : Array Single,
      values.size = 3
      ∧ ((n.after [.fresh ⟨⟨2, 1, 3⟩, #[1, 2, 3, 4, 5, 6]⟩]).serve
          (.onto ⟨⟨1, 1, 3⟩, #[7, 8, 9]⟩ (Array.replicate 3 Single.zero))).1
        = .left (.ok ()) values := by
  have hn : create 1 1 = .ok ⟨⟨1, 1, 3⟩, Array.replicate 3 0⟩ := rfl
  obtain ⟨-, -, htaken, -⟩ :=
    calls_answered_alone hn [.fresh ⟨⟨2, 1, 3⟩, #[1, 2, 3, 4, 5, 6]⟩]
      ⟨⟨1, 1, 3⟩, #[7, 8, 9]⟩ (Array.replicate 3 Single.zero)
  have hcomes := (htaken rfl).2 rfl
  rw [if_pos (by decide)] at hcomes
  obtain ⟨_, values, -, hanswer, hsize, -⟩ := hcomes
  exact ⟨_, hn, values, hsize, hanswer⟩

end Normalizer

end FireNet
