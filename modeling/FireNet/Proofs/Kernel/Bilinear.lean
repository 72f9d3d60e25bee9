/-
Bilinear resize comes out for every image that has a pixel, whatever its
size: the two coordinates that an output coordinate samples are held inside
the image before anything is read, so no property of the sample weights is
needed. And whether it comes out or not, the buffer that it writes over
does not show.
-/
import FireNet.Kernel.Bilinear
import FireNet.Proofs.Kernel.Filter

set_option autoImplicit false

namespace FireNet.Kernel

-- ============================================================== samples

namespace Sample

/-- An axis with input is sampled inside it. -/
theorem exists_at? {input : Nat} (output o : Nat) (hinput : 0 < input) :
    ∃ s, at? input output o = some s ∧ s.near < input ∧ s.far < input := by
  unfold at?
  rw [if_neg (by omega)]
  exact ⟨_, rfl, by show min _ (input - 1) < input; omega,
    by show min _ (input - 1) < input; omega⟩

/-- A table is made for an input that is not empty, when its bytes fit. -/
theorem tabulates_eq_true_iff {input output : Nat} :
    tabulates input output = true
      ↔ (0 < input ∨ output = 0) ∧ output * bytes ≤ Size.maxBytes := by
  simp [tabulates]

end Sample

-- =============================================================== values

variable {input : Array UInt8} {image outShape : Shape}

/-- A value between four pixels of the image exists. -/
theorem isSome_resizedValue? {row column : Sample} {channel : Nat}
    (hinput : input.size = image.volume)
    (hrow : row.near < image.height ∧ row.far < image.height)
    (hcolumn : column.near < image.width ∧ column.far < image.width)
    (hchannel : channel < image.channels) :
    (resizedValue? input image row column channel).isSome := by
  have hcell : ∀ y x, y < image.height → x < image.width →
      (y * image.width + x) * image.channels + channel < input.size := by
    intro y x hy hx
    have := Shape.pixel_le hy hx
    omega
  have hread : ∀ y x, y < image.height → x < image.width →
      ∃ b, input[(y * image.width + x) * image.channels + channel]? = some b :=
    fun y x hy hx => ⟨_, Array.getElem?_eq_getElem (hcell y x hy hx)⟩
  obtain ⟨a, ha⟩ := hread _ _ hrow.1 hcolumn.1
  obtain ⟨b, hb⟩ := hread _ _ hrow.1 hcolumn.2
  obtain ⟨c, hc⟩ := hread _ _ hrow.2 hcolumn.1
  obtain ⟨d, hd⟩ := hread _ _ hrow.2 hcolumn.2
  simp [resizedValue?, ha, hb, hc, hd]

-- =============================================================== images

/-- Resizing over any output of the right length gives one result. -/
theorem exists_resize? (hin : image.size? = some input.size)
    (hheight : 0 < image.height) (hwidth : 0 < image.width)
    (hchannels : image.channels = outShape.channels)
    (hout : outShape.size? = some outShape.volume)
    (hrows : outShape.height * Sample.bytes ≤ Size.maxBytes)
    (hcolumns : outShape.width * Sample.bytes ≤ Size.maxBytes) :
    ∃ r : Array UInt8, r.size = outShape.volume ∧
      ∀ out : Array UInt8, out.size = outShape.volume →
        resize? input image outShape out = some r := by
  obtain ⟨-, hlt, hinput⟩ := Shape.size?_eq_some_iff.1 hin
  obtain ⟨r, hr, hpaint⟩ :=
    paint?_complete (outShape.height * outShape.width) image.channels
      (fun p => do
        let row ← Sample.at? image.height outShape.height (p / outShape.width)
        let column ← Sample.at? image.width outShape.width (p % outShape.width)
        some (row, column))
      (fun place => resizedValue? input image place.1 place.2)
      (show _ = outShape.volume by rw [hchannels]; rfl) (fun p _ => by
        obtain ⟨row, hrow, hrowIn⟩ := Sample.exists_at? outShape.height
          (p / outShape.width) hheight
        obtain ⟨column, hcolumn, hcolumnIn⟩ := Sample.exists_at? outShape.width
          (p % outShape.width) hwidth
        refine ⟨(row, column), by rw [hrow, hcolumn]; rfl, fun c hc => ?_⟩
        exact isSome_resizedValue? hinput.symm hrowIn hcolumnIn hc)
  -- a row of the image is no longer than the whole image
  have hrowBytes : image.width * image.channels < Size.limit := by
    refine Nat.lt_of_le_of_lt (Nat.le_mul_of_pos_left _ hheight) ?_
    rw [← Nat.mul_assoc]
    exact hlt
  have hmul : Size.mul image.width image.channels = some (image.width
      * image.channels) :=
    Size.mul_eq_some_iff.2 ⟨hrowBytes, rfl⟩
  have htabulates := Sample.tabulates_eq_true_iff.2 ⟨Or.inl hheight, hrows⟩
  have htabulates' := Sample.tabulates_eq_true_iff.2 ⟨Or.inl hwidth, hcolumns⟩
  refine ⟨r, hr, fun out hsize => ?_⟩
  simp only [resize?, hin, hout, hmul, Option.bind_eq_bind, Option.bind_some]
  rw [if_neg (by simp [hchannels, hsize]),
    if_neg (by simp [htabulates, htabulates'])]
  exact hpaint out hsize

/-- What the output held before does not show, not even in whether the
resize comes out. -/
theorem resize?_outcome (input : Array UInt8) (image : Shape)
    (hheight : 0 < outShape.height) (hwidth : 0 < outShape.width)
    (hout : outShape.size? = some outShape.volume) :
    ∃ outcome : Option (Array UInt8),
      (∀ r, outcome = some r → r.size = outShape.volume) ∧
      ∀ out : Array UInt8, out.size = outShape.volume →
        resize? input image outShape out = outcome := by
  by_cases hgood : image.size? = some input.size
    ∧ image.channels = outShape.channels
    ∧ Sample.tabulates image.height outShape.height = true
    ∧ Sample.tabulates image.width outShape.width = true
  · obtain ⟨hin, hchannels, hrows, hcolumns⟩ := hgood
    rw [Sample.tabulates_eq_true_iff] at hrows hcolumns
    obtain ⟨r, hr, hresize⟩ :=
      exists_resize? hin (by omega) (by omega) hchannels hout
        hrows.2 hcolumns.2
    refine ⟨some r, fun r' h => ?_, hresize⟩
    cases h
    exact hr
  -- one of the checks fails, and none of them looks into the output
  · refine ⟨none, (fun r h => by cases h), fun out hsize => ?_⟩
    unfold resize?
    cases hin : image.size? with
    | none => rfl
    | some inSize =>
        cases hmul : Size.mul image.width image.channels with
        | none => simp [hout]
        | some rowBytes =>
            simp only [hout, Option.bind_eq_bind, Option.bind_some]
            by_cases hlengths :
              image.channels ≠ outShape.channels ∨ input.size ≠ inSize
                ∨ out.size ≠ outShape.volume
            · rw [if_pos hlengths]
            · rw [if_neg hlengths, if_pos]
              rw [not_or, not_or, Decidable.not_not,
                Decidable.not_not] at hlengths
              rw [Bool.or_eq_true, Bool.not_eq_true',
                Bool.not_eq_true', ← Bool.not_eq_true,
                ← Bool.not_eq_true, ← Classical.not_and_iff_not_or_not]
              intro htabulates
              refine hgood ⟨?_, hlengths.1, htabulates⟩
              rw [hin, hlengths.2.1]

end FireNet.Kernel
