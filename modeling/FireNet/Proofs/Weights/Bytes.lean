/-
Stored values come back bit for bit: every 32-bit pattern is its four
bytes, a stored blob has four bytes for each value, and decoding it gives
the values. No pattern is special, so not-a-number payloads and signed
zeros come back like any other.
-/
import FireNet.Weights.Store

set_option autoImplicit false

namespace FireNet

namespace Single

/-- A value is its four bytes, the lowest first. -/
theorem ofBytes_toBytes (a : Single) :
    ofBytes a.bits.toUInt8 (a.bits >>> 8).toUInt8 (a.bits >>> 16).toUInt8
      (a.bits >>> 24).toUInt8 = a := by
  obtain ⟨bits⟩ := a
  unfold ofBytes
  congr 1
  apply UInt32.toBitVec_inj.mp
  apply BitVec.eq_of_getLsbD_eq
  intro i hi
  simp only [UInt32.toBitVec_or, UInt32.toBitVec_shiftLeft,
    UInt32.toBitVec_shiftRight, UInt8.toBitVec_toUInt32,
    UInt32.toBitVec_toUInt8, UInt32.toBitVec_ofNat, BitVec.getLsbD_or,
    BitVec.getLsbD_setWidth, BitVec.shiftLeft_eq', BitVec.ushiftRight_eq',
    BitVec.getLsbD_shiftLeft, BitVec.getLsbD_ushiftRight]
  -- Bit `i` comes from byte `i / 8` and from no other.
  grind

theorem length_toBytes (a : Single) : a.toBytes.length = 4 := rfl

end Single

namespace Blob

theorem toList_encode (values : Array Single) :
    (encode values).toList = values.toList.flatMap Single.toBytes :=
  Array.toList_flatMap

/-- Four bytes for each value. -/
theorem size_encode (values : Array Single) :
    (encode values).size = values.size * Element.bytes Single := by
  have hlength : ∀ xs : List Single,
      (xs.flatMap Single.toBytes).length = xs.length * 4 := by
    intro xs
    induction xs with
    | nil => rfl
    | cons x rest ih =>
        rw [List.flatMap_cons, List.length_append, ih, Single.length_toBytes,
          List.length_cons]
        omega
  rw [← Array.length_toList, toList_encode, hlength, Array.length_toList]
  rfl

/-- Byte `k` of value `i`. -/
theorem getElem?_flatMap_toBytes {xs : List Single} {i k : Nat} {v : Single}
    (hv : xs[i]? = some v) (hk : k < 4) :
    (xs.flatMap Single.toBytes)[4 * i + k]? = v.toBytes[k]? := by
  induction xs generalizing i with
  | nil => cases hv
  | cons x rest ih =>
      rw [List.flatMap_cons]
      cases i with
      | zero =>
          cases hv
          rw [Nat.mul_zero, Nat.zero_add,
            List.getElem?_append_left (by rw [Single.length_toBytes]; exact hk)]
      | succ i =>
          rw [List.getElem?_append_right (by rw [Single.length_toBytes]; omega),
            Single.length_toBytes, show 4 * (i + 1) + k - 4
              = 4 * i + k by omega]
          exact ih hv

/-- The bytes of a value are read back as that value. -/
theorem valueAt_encode {values : Array Single} {i : Nat} {v : Single}
    (hv : values[i]? = some v) : valueAt (encode values) i = v := by
  have hbyte : ∀ k, k < 4 →
      (encode values).getD (4 * i + k) 0 = v.toBytes.getD k 0 := by
    intro k hk
    rw [← Array.getElem?_toList] at hv
    rw [Array.getD_eq_getD_getElem?, ← Array.getElem?_toList, toList_encode,
      getElem?_flatMap_toBytes hv hk, List.getD_eq_getElem?_getD]
  unfold valueAt
  dsimp only
  rw [hbyte 0 (by decide), hbyte 1 (by decide), hbyte 2 (by decide),
    hbyte 3 (by decide)]
  exact Single.ofBytes_toBytes v

/-- Decoding stored values gives the values. -/
theorem decode_encode {n : Nat} (values : Vector Single n) :
    decode n (encode values.toArray) = values := by
  apply Vector.ext
  intro i hi
  rw [decode, Vector.getElem_ofFn]
  apply valueAt_encode
  rw [Vector.getElem?_toArray]
  exact Vector.getElem?_eq_getElem hi

end Blob

end FireNet
