/-
The bilinear resize, byte by byte. An output byte is told by a formula over
four bytes of its channel (`Tensor.blendAt`): those where two rows of the
image cross two columns. Which rows is a matter of the vertical axis alone,
and which columns of the horizontal one (`Sample.along`).

The two coordinates of a sample are held inside the axis after everything
that was computed in single values, so they are neighbours inside the image
(`Sample.Within`) whatever the arithmetic gives. Every read is in range from
that alone, also on an axis of one pixel, where both coordinates are 0.

As the formula reads one channel and the samples know of none, a channel
resizes as an image of its own.
-/
import FireNet.Proofs.Kernel.Bilinear
import FireNet.Proofs.Kernel.Elements

set_option autoImplicit false

namespace FireNet

/-- A table of samples can be held for each axis of an output. -/
def Shape.Tabulated (s : Shape) : Prop :=
  s.height * Kernel.Sample.bytes ≤ Size.maxBytes
    ∧ s.width * Kernel.Sample.bytes ≤ Size.maxBytes

instance (s : Shape) : Decidable s.Tabulated :=
  inferInstanceAs (Decidable (_ ∧ _))

-- ============================================================== samples

namespace Kernel.Sample

/-- Two neighbours on an axis, or twice its last coordinate. -/
structure Within (s : Sample) (input : Nat) : Prop where
  near_le_far : s.near ≤ s.far
  far_le : s.far ≤ s.near + 1
  far_lt : s.far < input

/-- Both samples of a pair lie in the input. -/
theorem Within.lt {s : Sample} {input i : Nat} (h : s.Within input)
    (hi : i = s.near ∨ i = s.far) :
    i < input := by
  have := h.near_le_far
  have := h.far_lt
  omega

/-- Held inside the axis one after the other, a coordinate and the next are
neighbours. -/
theorem Within.of_held {input : Nat} (hinput : 0 < input) (source : Nat)
    (weight : Single) :
    Within ⟨min source (input - 1),
      min (min source (input - 1) + 1) (input - 1), weight⟩ input where
  near_le_far := by simp only; omega
  far_le := by simp only; omega
  far_lt := by simp only; omega

/-- The sample of an output coordinate, from the two extents of its axis. -/
def along (input output o : Nat) : Sample := (at? input output o).getD default

variable {input : Nat} (output o : Nat)

/-- A place is computed for every output of an input that is not empty. -/
theorem at?_eq_some (hinput : 0 < input) :
    at? input output o = some (along input output o) := by
  obtain ⟨s, hs, -⟩ := exists_at? output o hinput
  rw [along, hs, Option.getD_some]

/-- And its samples lie in the input. -/
theorem along_within (hinput : 0 < input) :
    (along input output o).Within input := by
  have hsample := at?_eq_some output o hinput
  unfold at? at hsample
  rw [if_neg (by omega), Option.some.injEq] at hsample
  rw [← hsample]
  exact .of_held hinput _ _

end Kernel.Sample

-- ============================================================== formulas

namespace Tensor

variable (t : Tensor UInt8) (outShape : Shape)

/-- A byte of an image, as a value. -/
def level (y x channel : Nat) : Single :=
  Single.ofByte (t.data.getD
    ((y * t.shape.width + x) * t.shape.channels + channel) 0)

/-- Between four pixels: along both rows first, then from row to row. -/
def blendAt (row column : Kernel.Sample) (channel : Nat) : UInt8 :=
  let p00 := t.level row.near column.near channel
  let p01 := t.level row.near column.far channel
  let p10 := t.level row.far column.near channel
  let p11 := t.level row.far column.far channel
  let top := p00 + (p01 - p00) * column.weight
  let bottom := p10 + (p11 - p10) * column.weight
  let v := top + (bottom - top) * row.weight
  (v.round.clamp Single.zero (Single.ofSize 255)).toByte

/-- A byte of the resized image. -/
def resampledAt (oy ox channel : Nat) : UInt8 :=
  t.blendAt (.along t.shape.height outShape.height oy)
    (.along t.shape.width outShape.width ox) channel

/-- The writes of a resize. -/
def resampling : List (Nat × UInt8) :=
  (List.range outShape.height).flatMap fun oy =>
    (List.range outShape.width).flatMap fun ox =>
      (List.range outShape.channels).map fun channel =>
        ((oy * outShape.width + ox) * outShape.channels + channel,
          t.resampledAt outShape oy ox channel)

/-- One channel of an image, as an image. -/
def plane (channel : Nat) : Tensor UInt8 :=
  ⟨t.shape.withChannels 1,
    Array.ofFn fun p : Fin (t.shape.height * t.shape.width) =>
    t.data.getD (p * t.shape.channels + channel) 0⟩

variable {t outShape}

/-- Every byte of the output is written, once and in order. -/
theorem resampling_places :
    (t.resampling outShape).map Prod.fst = List.range outShape.volume := by
  simp only [resampling, List.map_flatMap, List.map_map]
  rw [Shape.volume, range_rowMajor, range_rowMajor, List.flatMap_assoc]
  simp only [List.flatMap_map]
  rfl

/-- The same writes, counted along the rows. -/
theorem resampling_eq : t.resampling outShape
    = (List.range (outShape.height * outShape.width)).flatMap fun p =>
        (List.range outShape.channels).map fun channel =>
          (p * outShape.channels + channel,
          t.resampledAt outShape (p / outShape.width)
            (p % outShape.width) channel) := by
  rw [resampling, range_rowMajor, List.flatMap_assoc]
  refine List.flatMap_congr fun oy _ => ?_
  rw [List.flatMap_map]
  refine List.flatMap_congr fun ox hox => ?_
  have hlt := List.mem_range.1 hox
  rw [Kernel.mul_add_div_of_lt hlt, Nat.mul_add_mod_of_lt hlt]

/-- The byte under a pixel and a channel, as a number. -/
theorem level_eq {y x channel : Nat} (hsize : t.data.size = t.shape.volume)
    (hy : y < t.shape.height) (hx : x < t.shape.width)
    (hchannel : channel < t.shape.channels) :
    (t.data[(y * t.shape.width + x) * t.shape.channels + channel]?).map
      Single.ofByte
      = some (t.level y x channel) := by
  have hpixel := Shape.pixel_le hy hx
  have hlt : (y * t.shape.width + x) * t.shape.channels + channel
    < t.data.size := by omega
  rw [level, Array.getD_eq_getD_getElem?, Array.getElem?_eq_getElem hlt,
    Option.map_some, Option.getD_some]

/-- The four reads are in range. -/
theorem resizedValue?_eq {row column : Kernel.Sample} {channel : Nat}
    (hsize : t.data.size = t.shape.volume) (hrow : row.Within t.shape.height)
    (hcolumn : column.Within t.shape.width)
    (hchannel : channel < t.shape.channels) :
    Kernel.resizedValue? t.data t.shape row column channel
      = some (t.blendAt row column channel) := by
  have hread : ∀ y x, y = row.near ∨ y = row.far →
      x = column.near ∨ x = column.far → _ :=
    fun y x hy hx => level_eq hsize (hrow.lt hy) (hcolumn.lt hx) hchannel
  simp only [Kernel.resizedValue?, Option.bind_eq_bind,
    hread _ _ (.inl rfl) (.inl rfl),
    hread _ _ (.inl rfl) (.inr rfl), hread _ _ (.inr rfl) (.inl rfl),
    hread _ _ (.inr rfl) (.inr rfl), Option.bind_some]
  rfl

-- =============================================================== planes

/-- A plane holds a value for each pixel. -/
theorem size_plane (t : Tensor UInt8) (channel : Nat) :
    (t.plane channel).data.size = (t.plane channel).shape.volume := by
  rw [plane, Array.size_ofFn]
  exact (Nat.mul_one _).symm

theorem plane_size? {n : Nat} (h : t.shape.size? = some n) (channel : Nat) :
    (t.plane channel).shape.size? = some (t.plane channel).data.size := by
  obtain ⟨hlt, -, -⟩ := Shape.size?_eq_some_iff.1 h
  refine Shape.size?_eq_some_iff.2 ⟨hlt, ?_, (size_plane t channel).symm⟩
  show t.shape.height * t.shape.width * 1 < Size.limit
  omega

/-- A plane shows its channel alone. -/
theorem value?_plane {y x channel : Nat} (hsize : t.data.size = t.shape.volume)
    (hy : y < t.shape.height) (hx : x < t.shape.width)
    (hchannel : channel < t.shape.channels) :
    (t.plane channel).value? y x 0 = t.value? y x channel := by
  have hplace := rowMajor_lt hy hx
  have hpixel := Shape.pixel_le hy hx
  have hlt : (y * t.shape.width + x) * t.shape.channels + channel
    < t.data.size := by omega
  simp only [value?, plane, Shape.withChannels, Nat.mul_one, Nat.add_zero,
    Array.getElem?_ofFn, dif_pos hplace, Array.getD_eq_getD_getElem?,
    Array.getElem?_eq_getElem hlt, Option.getD_some]

/-- Equal bytes have equal levels. -/
theorem level_congr {t' : Tensor UInt8} {y x channel channel' : Nat}
    (h : t'.value? y x channel' = t.value? y x channel) :
    t'.level y x channel' = t.level y x channel := by
  rw [value?, value?] at h
  rw [level, level, Array.getD_eq_getD_getElem?, Array.getD_eq_getD_getElem?, h]

/-- A byte depends on four bytes of its channel. -/
theorem blendAt_congr {t' : Tensor UInt8} {row column : Kernel.Sample}
    {channel channel' : Nat}
    (h : ∀ y x, y = row.near ∨ y = row.far → x = column.near ∨ x = column.far →
      t'.level y x channel' = t.level y x channel) :
    t'.blendAt row column channel' = t.blendAt row column channel := by
  simp only [blendAt, h _ _ (.inl rfl) (.inl rfl), h _ _ (.inl rfl) (.inr rfl),
    h _ _ (.inr rfl) (.inl rfl), h _ _ (.inr rfl) (.inr rfl)]

/-- A resampled value depends on its four samples only. -/
theorem resampledAt_congr {t' : Tensor UInt8} {oy ox channel : Nat}
    (hshape : t'.shape = t.shape)
    (h : let row := Kernel.Sample.along t.shape.height outShape.height oy
      let column := Kernel.Sample.along t.shape.width outShape.width ox
      ∀ y x, y = row.near ∨ y = row.far → x = column.near ∨ x = column.far →
        t'.value? y x channel = t.value? y x channel) :
    t'.resampledAt outShape oy ox channel
      = t.resampledAt outShape oy ox channel := by
  rw [resampledAt, hshape]
  exact blendAt_congr fun y x hy hx => level_congr (h y x hy hx)

end Tensor

-- =========================================================== the resize

namespace Kernel

variable {t : Tensor UInt8} {outShape : Shape} {out : Array UInt8}

/-- An image that is not as long as its shape says is not resized. -/
theorem resize?_eq_none {input : Array UInt8} {image : Shape}
    (h : image.size? ≠ some input.size) :
    resize? input image outShape out = none := by
  unfold resize?
  cases hin : image.size? with
  | none => rfl
  | some inSize =>
      have hne : input.size ≠ inSize :=
        fun heq => h (hin.trans (congrArg some heq.symm))
      cases outShape.size? with
      | none => rfl
      | some outSize =>
          cases Size.mul image.width image.channels with
          | none => rfl
          | some rowBytes => exact if_pos (.inr (.inl hne))

/-- What the checks of a resize let through. -/
theorem resize?_eq_paint? (ht : t.shape.size? = some t.data.size)
    (hheight : 1 ≤ t.shape.height) (hwidth : 1 ≤ t.shape.width)
    (hchannels : outShape.channels = t.shape.channels) :
    resize? t.data t.shape outShape out =
      if outShape.size? = some out.size ∧ outShape.Tabulated then
        paint? (outShape.height * outShape.width) outShape.channels
          (fun p => some
            (Sample.along t.shape.height outShape.height (p / outShape.width),
            Sample.along t.shape.width outShape.width (p % outShape.width)))
          (fun place => resizedValue? t.data t.shape place.1 place.2) out
      else none := by
  have hrow : Size.mul t.shape.width t.shape.channels
      = some (t.shape.width * t.shape.channels) := by
    obtain ⟨-, hlt, -⟩ := Shape.size?_eq_some_iff.1 ht
    refine Size.mul_eq_some_iff.2
      ⟨Nat.lt_of_le_of_lt (Nat.le_mul_of_pos_left _ hheight) ?_, rfl⟩
    rw [← Nat.mul_assoc]
    exact hlt
  have htables : (!Sample.tabulates t.shape.height outShape.height
      || !Sample.tabulates t.shape.width outShape.width) = true
        ↔ ¬outShape.Tabulated := by
    have hrows : 0 < t.shape.height := hheight
    have hcolumns : 0 < t.shape.width := hwidth
    simp [Sample.tabulates, Shape.Tabulated, hrows, hcolumns, imp_iff_not_or]
  have hprepare : (fun p => (do
        let row ← Sample.at? t.shape.height outShape.height (p / outShape.width)
        let column ←
          Sample.at? t.shape.width outShape.width (p % outShape.width)
        some (row, column)))
      = fun p => some
        (Sample.along t.shape.height outShape.height (p / outShape.width),
          Sample.along t.shape.width outShape.width (p % outShape.width)) := by
    funext p
    rw [Sample.at?_eq_some _ _ hheight, Sample.at?_eq_some _ _ hwidth]
    rfl
  unfold resize?
  simp only [htables]
  rw [ht, hprepare, hrow, hchannels]
  cases hsize : outShape.size? with
  | none => simp
  | some n =>
      by_cases hn : out.size = n
      · by_cases htab : outShape.Tabulated <;> simp [hn, htab]
      · simp [hn, Ne.symm hn]

/-- A resize is one write per byte, or nothing. -/
theorem resize?_eq_writeAll (ht : t.shape.size? = some t.data.size)
    (hheight : 1 ≤ t.shape.height) (hwidth : 1 ≤ t.shape.width)
    (hchannels : outShape.channels = t.shape.channels) :
    resize? t.data t.shape outShape out =
      if outShape.size? = some out.size ∧ outShape.Tabulated then
        some (writeAll (t.resampling outShape) out)
      else none := by
  rw [resize?_eq_paint? ht hheight hwidth hchannels]
  by_cases hgo : outShape.size? = some out.size ∧ outShape.Tabulated
  · obtain ⟨-, -, hout⟩ := Shape.size?_eq_some_iff.1 hgo.1
    obtain ⟨-, -, hsize⟩ := Shape.size?_eq_some_iff.1 ht
    rw [if_pos hgo, if_pos hgo, Tensor.resampling_eq]
    exact paint?_eq_writeAll _ out (Nat.le_of_eq hout) fun p _ =>
      ⟨_, rfl, fun channel hchannel => Tensor.resizedValue?_eq hsize.symm
        (Sample.along_within _ _ hheight) (Sample.along_within _ _ hwidth)
        (hchannels ▸ hchannel)⟩
  · rw [if_neg hgo, if_neg hgo]

/-- When a resize comes out, the sizes were right, and the result has the size
of its shape. -/
theorem resize?_eq_some (ht : t.shape.size? = some t.data.size)
    (hheight : 1 ≤ t.shape.height) (hwidth : 1 ≤ t.shape.width)
    (hchannels : outShape.channels = t.shape.channels) {r : Array UInt8}
    (h : resize? t.data t.shape outShape out = some r) :
    (outShape.size? = some out.size ∧ outShape.Tabulated)
      ∧ r.size = outShape.volume := by
  rw [resize?_eq_writeAll ht hheight hwidth hchannels] at h
  obtain ⟨hgo, hr⟩ := Option.ite_none_right_eq_some.1 h
  obtain ⟨-, -, hvolume⟩ := Shape.size?_eq_some_iff.1 hgo.1
  cases hr
  exact ⟨hgo, (size_writeAll _ _).trans hvolume.symm⟩

/-- What a resize leaves at a byte. -/
theorem resize?_element (ht : t.shape.size? = some t.data.size)
    (hheight : 1 ≤ t.shape.height) (hwidth : 1 ≤ t.shape.width)
    (hchannels : outShape.channels = t.shape.channels) {r : Array UInt8}
    (h : resize? t.data t.shape outShape out = some r) {oy ox channel : Nat}
    (hy : oy < outShape.height) (hx : ox < outShape.width)
    (hchannel : channel < outShape.channels) :
    (⟨outShape, r⟩ : Tensor UInt8).value? oy ox channel
      = some (t.resampledAt outShape oy ox channel) := by
  obtain ⟨-, -, hsize⟩ := Shape.size?_eq_some_iff.1 ht
  rw [resize?_eq_paint? ht hheight hwidth hchannels,
    Option.ite_none_right_eq_some] at h
  refine (paint?_cell h.2 (rowMajor_lt hy hx) hchannel).trans ?_
  rw [mul_add_div_of_lt hx, Nat.mul_add_mod_of_lt hx, Option.bind_some]
  exact Tensor.resizedValue?_eq hsize.symm (Sample.along_within _ _ hheight)
    (Sample.along_within _ _ hwidth) (hchannels ▸ hchannel)

/-- A channel resizes as it does in the image. -/
theorem resize?_plane (ht : t.shape.size? = some t.data.size)
    (hheight : 1 ≤ t.shape.height) (hwidth : 1 ≤ t.shape.width)
    (hchannels : outShape.channels = t.shape.channels) {r : Array UInt8}
    (h : resize? t.data t.shape outShape out = some r) {channel : Nat}
    (hchannel : channel < t.shape.channels) {out' : Array UInt8}
    (hout' : out'.size = outShape.height * outShape.width) :
    resize? (t.plane channel).data (t.plane channel).shape
      (outShape.withChannels 1) out'
      = some ((⟨outShape, r⟩ : Tensor UInt8).plane channel).data := by
  obtain ⟨⟨hout, htables⟩, hrsize⟩ :=
    resize?_eq_some ht hheight hwidth hchannels h
  obtain ⟨hpositions, -, hvolume⟩ := Shape.size?_eq_some_iff.1 hout
  obtain ⟨-, -, hsize⟩ := Shape.size?_eq_some_iff.1 ht
  have hplane := Tensor.plane_size? ht channel
  have hgo : (outShape.withChannels 1).size? = some out'.size
      ∧ (outShape.withChannels 1).Tabulated := by
    refine ⟨Shape.size?_eq_some_iff.2 ⟨hpositions, ?_, ?_⟩, htables⟩
    · show outShape.height * outShape.width * 1 < Size.limit
      omega
    · rw [hout']
      exact Nat.mul_one _
  have hkept : channel < outShape.channels := hchannels.symm ▸ hchannel
  have hone : (outShape.withChannels 1).channels
    = (t.plane channel).shape.channels := rfl
  -- a plane passes the checks that its image passed
  obtain ⟨r', hr'⟩ : ∃ r',
    resize? (t.plane channel).data (t.plane channel).shape
      (outShape.withChannels 1) out' = some r' :=
    ⟨_, (resize?_eq_writeAll hplane hheight hwidth hone).trans (if_pos hgo)⟩
  have hr'size := (resize?_eq_some hplane hheight hwidth hone hr').2
  have himage : (⟨outShape.withChannels 1, r'⟩ : Tensor UInt8)
      = (⟨outShape, r⟩ : Tensor UInt8).plane channel := by
    refine Tensor.eq_of_value? rfl hr'size
      (Tensor.size_plane _ _) fun oy hy ox hx i hi => ?_
    obtain rfl : i = 0 := Nat.lt_one_iff.1 hi
    have hsame : (t.plane channel).resampledAt (outShape.withChannels 1) oy ox 0
        = t.resampledAt outShape oy ox channel :=
      Tensor.blendAt_congr fun y x hy hx => Tensor.level_congr
        <| Tensor.value?_plane hsize.symm
        ((Sample.along_within _ _ hheight).lt hy)
          ((Sample.along_within _ _ hwidth).lt hx) hchannel
    rw [resize?_element hplane hheight hwidth hone hr' hy hx hi, hsame,
      Tensor.value?_plane (t := ⟨outShape, r⟩) hrsize hy hx hkept,
      resize?_element ht hheight hwidth hchannels h hy hx hkept]
  rw [hr', ← himage]

/-- The resize of an image with a pixel. It is one write per byte of the
output, in order, unless the samples of an axis cannot be tabulated. Both
samples of a byte lie inside the image. The byte is the blend of the four
pixels where they cross: no other pixel shows in it, and the channels of an
image resize as images of their own. -/
theorem bilinear_resamples (t : Tensor UInt8) (outShape : Shape)
    (ht : t.shape.size? = some t.data.size)
    (hheight : 1 ≤ t.shape.height) (hwidth : 1 ≤ t.shape.width)
    (hchannels : outShape.channels = t.shape.channels) :
    ((t.resampling outShape).map Prod.fst = List.range outShape.volume
      ∧ ∀ out : Array UInt8, outShape.size? = some out.size →
        resize? t.data t.shape outShape out =
          if outShape.Tabulated then some (writeAll (t.resampling outShape) out)
            else none)
    ∧ ((∀ oy,
      (Sample.along t.shape.height outShape.height oy).Within t.shape.height)
      ∧ ∀ ox,
        (Sample.along t.shape.width outShape.width ox).Within t.shape.width)
    ∧ ∀ out r : Array UInt8, resize? t.data t.shape outShape out = some r →
      (∀ oy ox channel, oy < outShape.height → ox < outShape.width →
        channel < outShape.channels →
        ∀ row column : Sample, row = .along t.shape.height outShape.height oy →
          column = .along t.shape.width outShape.width ox →
          (⟨outShape, r⟩ : Tensor UInt8).value? oy ox channel
              = some (t.blendAt row column channel)
            ∧ ∀ t' : Tensor UInt8,
              t'.shape = t.shape → t'.data.size = t.data.size →
              (∀ y x, y = row.near ∨ y = row.far →
                x = column.near ∨ x = column.far →
                t'.value? y x channel = t.value? y x channel) →
              ∀ out' r' : Array UInt8,
                resize? t'.data t'.shape outShape out' = some r' →
                (⟨outShape, r'⟩ : Tensor UInt8).value? oy ox channel
                  = (⟨outShape, r⟩ : Tensor UInt8).value? oy ox channel)
      ∧ ∀ channel < t.shape.channels, ∀ out' : Array UInt8,
        out'.size = outShape.height * outShape.width →
          resize? (t.plane channel).data (t.plane channel).shape
            (outShape.withChannels 1) out'
            = some ((⟨outShape, r⟩ : Tensor UInt8).plane channel).data := by
  refine ⟨⟨Tensor.resampling_places, fun out hout => ?_⟩,
    ⟨fun oy => Sample.along_within _ _ hheight,
      fun ox => Sample.along_within _ _ hwidth⟩,
    fun out r hr =>
      ⟨fun oy ox channel hy hx hchannel row column hrow hcolumn => ⟨?_, ?_⟩,
      fun channel hchannel out' hout' => resize?_plane ht hheight hwidth
        hchannels hr hchannel hout'⟩⟩
  · rw [resize?_eq_writeAll ht hheight hwidth hchannels]
    simp only [hout, true_and]
  · rw [hrow, hcolumn]
    exact resize?_element ht hheight hwidth hchannels hr hy hx hchannel
  · intro t' hshape hsize hsame out' r' hr'
    subst hrow hcolumn
    have ht' : t'.shape.size? = some t'.data.size := by rw [hshape, hsize, ht]
    rw [resize?_element ht hheight hwidth hchannels hr hy hx hchannel,
      resize?_element ht' (hshape ▸ hheight) (hshape ▸ hwidth)
        (hshape ▸ hchannels) hr' hy hx
        hchannel, Tensor.resampledAt_congr hshape hsame]

/-- A row of two bytes, resized to a column of two. -/
theorem bilinear_resamples_pair :
    resize? #[7, 9] ⟨1, 2, 1⟩ ⟨2, 1, 1⟩ #[0, 0]
      = some (writeAll ((⟨⟨1, 2, 1⟩, #[7, 9]⟩ : Tensor UInt8).resampling
        ⟨2, 1, 1⟩) #[0, 0]) := by
  have h :=
    (bilinear_resamples ⟨⟨1, 2, 1⟩, #[7, 9]⟩ ⟨2, 1, 1⟩ rfl (by decide)
      (by decide) rfl).1.2
    #[0, 0] rfl
  rwa [if_pos (by decide)] at h

end Kernel

end FireNet
