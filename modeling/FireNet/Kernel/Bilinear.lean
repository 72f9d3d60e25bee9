/-
Bilinear resize of byte images. Pixel centres lie at halves, so output
coordinate `o` samples the input at `(o + 0.5) * scale - 0.5`, kept inside
the image; the value is rounded to the nearest byte.
-/
import FireNet.Kernel.Paint
import FireNet.Numeric.Single

set_option autoImplicit false

namespace FireNet.Kernel

/-- Where one output coordinate samples an axis: two neighbouring input
coordinates and the weight of the second. -/
structure Sample where
  near : Nat
  far : Nat
  weight : Single

instance : Inhabited Sample := ⟨⟨0, 0, Single.zero⟩⟩

namespace Sample

/-- The sample of output coordinate `o`; a fault on an axis without input. -/
def at? (input output o : Nat) : Option Sample :=
  if input = 0 then none
  else
    let scale := Single.ofSize input / Single.ofSize output
    let source :=
      ((Single.ofSize o + Single.half) * scale - Single.half).max Single.zero
    let near := min source.floor.toSize (input - 1)
    let far := min (near + 1) (input - 1)
    some ⟨near, far, (source - Single.ofSize near).clamp Single.zero Single.one⟩

/-- The bytes that one sample takes in the table of its axis. -/
def bytes : Nat := 24

/-- Whether the samples of an axis can be made: there is input where there
is output, and a buffer can hold their table. -/
def tabulates (input output : Nat) : Bool :=
  (0 < input || output = 0) && output * bytes ≤ Size.maxBytes

/-- Between two values, by the weight of the second. -/
def between (weight first second : Single) : Single :=
  first + (second - first) * weight

end Sample

def resizedValue? (input : Array UInt8) (image : Shape) (row column : Sample)
    (channel : Nat) : Option UInt8 := do
  let cell (y x : Nat) : Option Single :=
    (input[(y * image.width + x) * image.channels + channel]?).map Single.ofByte
  let top :=
    Sample.between column.weight (← cell row.near column.near)
      (← cell row.near column.far)
  let bottom :=
    Sample.between column.weight (← cell row.far column.near)
      (← cell row.far column.far)
  let v := Sample.between row.weight top bottom
  some (v.round.clamp Single.zero (Single.ofSize 255)).toByte

/-- Bilinear resize, written over `out`. -/
def resize? (input : Array UInt8) (image outShape : Shape) (out : Array UInt8) :
    Option (Array UInt8) := do
  let inSize ← image.size?
  let outSize ← outShape.size?
  let _rowBytes ← Size.mul image.width image.channels
  if image.channels ≠ outShape.channels ∨ input.size ≠ inSize
    ∨ out.size ≠ outSize then none
  else if !Sample.tabulates image.height outShape.height ||
      !Sample.tabulates image.width outShape.width then none
  else
    paint? (outShape.height * outShape.width) image.channels
      (fun p => do
        let row ← Sample.at? image.height outShape.height (p / outShape.width)
        let column ← Sample.at? image.width outShape.width (p % outShape.width)
        some (row, column))
      (fun (row, column) => resizedValue? input image row column) out

end FireNet.Kernel
