/-
The order of values. A pattern denotes an infinity, a zero, or a mantissa
times a power of two, each with a sign, or no number at all. Two numbers are
compared by sign, then by exponent, then by mantissa, the last two the other
way round below zero. So the comparison is that of a key in a linear order
(`rank`), and it is transitive and total on numbers.

The machine compares what is left of a pattern once it is read and written
back. For a number that is the pattern itself (`pack_unpack`), so every value
that is not flagged as a not-a-number has its place in the order.
-/
import FireNet.Numeric.Single
import Mathlib.Algebra.Group.Nat.Defs
import Mathlib.Algebra.Order.Group.Int
import Mathlib.Data.Prod.Lex

set_option autoImplicit false

namespace FireNet

open Float.Model (UnpackedFloat Format)
open Float.Model.UnpackedFloat

namespace Single

-- ============================================================== patterns

variable {b : BitVec Format.binary32.numBits}
  {e : BitVec Format.binary32.exponentBits}
  {m : BitVec Format.binary32.mantissaBitsWithoutImplicit} {s : Sign}

/-- The fraction is the last 23 bits. -/
theorem toNat_fraction : (unpackMantissa b).toNat = b.toNat % 2 ^ 23 := by
  simp only [unpackMantissa, BitVec.toNat_cast, BitVec.extractLsb_toNat,
    Nat.shiftRight_zero]

/-- The exponent is the 8 bits before them. -/
theorem toNat_exponent :
    (unpackExponent b).toNat = b.toNat / 2 ^ 23 % 2 ^ 8 := by
  simp only [unpackExponent, BitVec.toNat_cast, BitVec.extractLsb_toNat,
    Nat.shiftRight_eq_div_pow]

/-- The sign is the first bit. -/
theorem toNat_sign : (unpackSign b).toNat = b.toNat / 2 ^ 31 := by
  have hb : b.toNat < 2 ^ 32 := b.isLt
  show (b.extractLsb 31 31).toNat = _
  rw [BitVec.extractLsb_toNat, Nat.shiftRight_eq_div_pow]
  omega

/-- A pattern is its three fields in place. -/
theorem toNat_packComponents :
    (packComponents .binary32 s e m).toNat
      = s.toBitVec.toNat * 2 ^ 31 + e.toNat * 2 ^ 23 + m.toNat := by
  have hm : m.toNat < 2 ^ 23 := m.isLt
  have he : e.toNat < 2 ^ 8 := e.isLt
  simp only [packComponents, BitVec.toNat_append]
  rw [← Nat.shiftLeft_add_eq_or_of_lt m.isLt, ← Nat.shiftLeft_add_eq_or_of_lt
    e.isLt, Nat.shiftLeft_eq, Nat.shiftLeft_eq]
  show (_ * 2 ^ 8 + _) * 2 ^ 23 + _ = _
  omega

/-- A pattern is its sign, its exponent and its fraction. -/
theorem packComponents_eq (he : unpackExponent b = e)
    (hm : unpackMantissa b = m) :
    packComponents .binary32 (Sign.ofBitVec (unpackSign b)) e m = b := by
  have hb : b.toNat < 2 ^ 32 := b.isLt
  have hsign : ∀ v : BitVec 1, (Sign.ofBitVec v).toBitVec = v := by decide
  refine BitVec.toNat_inj.1 ?_
  rw [toNat_packComponents, hsign, ← he, ← hm, toNat_sign, toNat_exponent,
    toNat_fraction]
  omega

/-- With an exponent of zero the fraction is the mantissa. -/
theorem pack_subnormal {x : Int} (hx : x = -149) (h : 0 < m.toNat) :
    pack .binary32 (.finite s m.toNat x h)
      = packComponents .binary32 s 0 m := by
  subst hx
  have hlog : m.toNat.log2 < 23 := (Nat.log2_lt (by omega)).2 m.isLt
  unfold pack
  dsimp only
  rw [if_neg (by decide), if_neg (by show ¬_ = 24; omega), BitVec.ofNat_toNat,
    BitVec.setWidth_eq]
  rfl

/-- With any other the mantissa has one more bit, which is not stored. -/
theorem pack_normal (hle : e.toNat ≠ 255) (h : 0 < (1#1 ++ m).toNat) :
    pack .binary32 (.finite s (1#1 ++ m).toNat (e.toNat - 150) h)
      = packComponents .binary32 s e m := by
  have hm : m.toNat < 2 ^ 23 := m.isLt
  have he : e.toNat < 2 ^ 8 := e.isLt
  have hmantissa : (1#1 ++ m).toNat = 2 ^ 23 + m.toNat := by
    rw [BitVec.toNat_append, ← Nat.shiftLeft_add_eq_or_of_lt m.isLt]
    rfl
  have hlog : (1#1 ++ m).toNat.log2 = 23 := by
    rw [Nat.log2_eq_iff (by omega)]
    omega
  have hexponent : ((e.toNat : Int) - 150 + Format.binary32.exponentBias
      + Format.binary32.mantissaBitsWithoutImplicit).toNat = e.toNat := by
    show ((e.toNat : Int) - 150 + (127 : Nat) + (23 : Nat)).toNat = _
    omega
  have hfraction : BitVec.ofNat 23 (1#1 ++ m).toNat = m := by
    refine BitVec.toNat_inj.1 ?_
    rw [BitVec.toNat_ofNat, hmantissa]
    show _ = _
    omega
  unfold pack
  simp only [hexponent, hlog]
  rw [if_neg (by show ¬2 ^ 8 ≤ _; omega), if_pos (by rfl), BitVec.ofNat_toNat,
    BitVec.setWidth_eq]
  exact congrArg _ hfraction

/-- A pattern comes back from what it denotes, if that is a number. -/
theorem pack_unpack (h : unpack .binary32 b ≠ .notANumber) :
    pack .binary32 (unpack .binary32 b) = b := by
  unfold unpack at h ⊢
  dsimp only at h ⊢
  by_cases hfull : unpackExponent b = -1#(Format.binary32.exponentBits)
  · rw [if_pos hfull] at h ⊢
    by_cases hzero :
      unpackMantissa b = 0#(Format.binary32.mantissaBitsWithoutImplicit)
    · rw [if_pos hzero]
      exact packComponents_eq hfull hzero
    · exact absurd (if_neg hzero) h
  · rw [if_neg hfull]
    by_cases hempty : unpackExponent b = 0#(Format.binary32.exponentBits)
    · rw [if_pos hempty]
      by_cases hzero :
        unpackMantissa b = 0#(Format.binary32.mantissaBitsWithoutImplicit)
      · rw [dif_pos hzero]
        exact packComponents_eq hempty hzero
      · have hpos : (unpackMantissa b).toNat ≠ 0 :=
          fun heq => hzero (BitVec.toNat_inj.1 heq)
        rw [dif_neg hzero]
        exact (pack_subnormal (by rw [hempty]; rfl)
          (Nat.pos_of_ne_zero hpos)).trans (packComponents_eq hempty rfl)
    · have hle : (unpackExponent b).toNat ≠ 255 :=
        fun heq => hfull (BitVec.toNat_inj.1 heq)
      rw [if_neg hempty]
      exact (pack_normal hle _).trans (packComponents_eq rfl rfl)

/-- No number: the exponent is full and the fraction is not zero. -/
theorem unpack_eq_notANumber_iff :
    unpack .binary32 b = .notANumber ↔ 0x7f800000 < b.toNat % 2 ^ 31 := by
  have hfull : unpackExponent b = -1#(Format.binary32.exponentBits)
      ↔ b.toNat / 2 ^ 23 % 2 ^ 8 = 255 := by
    rw [← toNat_exponent]
    exact BitVec.toNat_inj.symm
  have hzero : unpackMantissa b
    = 0#(Format.binary32.mantissaBitsWithoutImplicit)
      ↔ b.toNat % 2 ^ 23 = 0 := by
    rw [← toNat_fraction]
    exact BitVec.toNat_inj.symm
  -- both fields together, as one comparison of the pattern without its sign
  have hfields : unpackExponent b = -1#(Format.binary32.exponentBits)
      ∧ unpackMantissa b ≠ 0#(Format.binary32.mantissaBitsWithoutImplicit)
      ↔ 0x7f800000 < b.toNat % 2 ^ 31 := by
    rw [hfull, ne_eq, hzero]
    omega
  rw [← hfields]
  unfold unpack
  dsimp only
  by_cases he : unpackExponent b = -1#(Format.binary32.exponentBits)
  · rw [if_pos he]
    by_cases hm : unpackMantissa b
      = 0#(Format.binary32.mantissaBitsWithoutImplicit)
    · rw [if_pos hm]
      exact iff_of_false UnpackedFloat.noConfusion fun h => h.2 hm
    · rw [if_neg hm]
      exact iff_of_true rfl ⟨he, hm⟩
  · refine iff_of_false ?_ fun h => he h.1
    rw [if_neg he]
    by_cases hempty : unpackExponent b = 0#(Format.binary32.exponentBits)
    · rw [if_pos hempty]
      by_cases hm : unpackMantissa b
        = 0#(Format.binary32.mantissaBitsWithoutImplicit)
      · rw [dif_pos hm]
        exact UnpackedFloat.noConfusion
      · rw [dif_neg hm]
        exact UnpackedFloat.noConfusion
    · rw [if_neg hempty]
      exact UnpackedFloat.noConfusion

-- ================================================================= order

/-- Where a number stands among the others: its class and sign, then its
exponent and mantissa. -/
def rank : UnpackedFloat → ℤ ×ₗ ℤ ×ₗ ℤ
  | .infinity .negative => toLex (-2, toLex (0, 0))
  | .finite .negative m e _ => toLex (-1, toLex (-e, -m))
  | .zero _ => toLex (0, toLex (0, 0))
  | .finite .positive m e _ => toLex (1, toLex (e, m))
  | .infinity .positive => toLex (2, toLex (0, 0))
  | .notANumber => toLex (0, toLex (0, 0))

variable {u v : UnpackedFloat} {a c : Single}

/-- Pairs are compared by their first parts, and then by the second ones. -/
theorem compare_toLex {α β : Type} [LinearOrder α] [LinearOrder β] {x z : α}
    {y w : β} :
    compare (toLex (x, y)) (toLex (z, w))
      = (compare x z).then (compare y w) := by
  rw [Prod.Lex.compare_def]
  rfl

theorem compare_natCast (m n : Nat) : compare (m : ℤ) n = compare m n := by
  rcases Nat.lt_trichotomy m n with h | rfl | h
  · rw [compare_lt_iff_lt.2 h, compare_lt_iff_lt.2 (Int.ofNat_lt.2 h)]
  · rw [compare_eq_iff_eq.2 rfl, compare_eq_iff_eq.2 rfl]
  · rw [compare_gt_iff_gt.2 h, compare_gt_iff_gt.2 (Int.ofNat_lt.2 h)]

theorem compare_neg (e f : ℤ) : compare (-e) (-f) = (compare e f).swap := by
  rcases Int.lt_trichotomy e f with h | rfl | h
  · rw [compare_lt_iff_lt.2 h, compare_gt_iff_gt.2 (Int.neg_lt_neg h)]
    rfl
  · rw [compare_eq_iff_eq.2 rfl, compare_eq_iff_eq.2 rfl]
    rfl
  · rw [compare_gt_iff_gt.2 h, compare_lt_iff_lt.2 (Int.neg_lt_neg h)]
    rfl

/-- Numbers compare as their ranks do. -/
theorem compare_eq_compare_rank (hu : u ≠ .notANumber) (hv : v ≠ .notANumber) :
    u.compare v = some (compare (rank u) (rank v)) := by
  -- unless both are finite and of one sign, the first component decides
  cases u with
  | notANumber => exact absurd rfl hu
  | infinity s =>
      cases v with
      | notANumber => exact absurd rfl hv
      | infinity t => cases s <;> cases t <;> rfl
      | zero t => cases s <;> rfl
      | finite t m e h => cases s <;> cases t <;> rfl
  | zero s =>
      cases v with
      | notANumber => exact absurd rfl hv
      | infinity t => cases t <;> rfl
      | zero t => rfl
      | finite t m e h => cases t <;> rfl
  | finite s m e h =>
      cases v with
      | notANumber => exact absurd rfl hv
      | infinity t => cases s <;> cases t <;> rfl
      | zero t => cases s <;> rfl
      | finite t n f h' =>
          cases s with
          | positive =>
              cases t with
              | positive =>
                  show some ((compare e f).then (compare m n)) = some (compare
                    (toLex ((1 : ℤ), toLex (e, (m : ℤ))))
                      (toLex ((1 : ℤ), toLex (f, (n : ℤ)))))
                  rw [compare_toLex, compare_toLex, compare_natCast]
                  rfl
              | negative => rfl
          | negative =>
              cases t with
              | positive => rfl
              | negative =>
                  show some ((compare e f).then (compare m n)).swap
                    = some (compare
                    (toLex ((-1 : ℤ), toLex (-e, -(m : ℤ))))
                    (toLex ((-1 : ℤ), toLex (-f, -(n : ℤ)))))
                  rw [compare_toLex, compare_toLex, compare_neg e f,
                    compare_neg (m : ℤ) n, compare_natCast, Ordering.swap_then]
                  rfl

-- ================================================================ values

variable {a c d : Single}

/-- The number that a value denotes. -/
def unpacked (a : Single) : UnpackedFloat := a.toFloat.toModel.unpack

/-- A value is a number unless its pattern is none. -/
theorem isNaN_eq_false_iff :
    a.isNaN = false ↔ unpack .binary32 a.bits.toBitVec ≠ .notANumber := by
  have hmask : (a.bits &&& 0x7fffffff).toNat = a.bits.toNat % 2 ^ 31 := by
    rw [UInt32.toNat_and]
    exact Nat.and_two_pow_sub_one_eq_mod _ 31
  rw [ne_eq, unpack_eq_notANumber_iff, isNaN,
    decide_eq_false_iff_not, gt_iff_lt, UInt32.lt_iff_toNat_lt, hmask]
  rfl

/-- The exponent, cut out in its place. -/
theorem and_exponent (n : Nat) :
    n &&& 0x7f800000 = n / 2 ^ 23 % 2 ^ 8 * 2 ^ 23 := by
  have hmask : (0x7f800000 : Nat) = (2 ^ 8 - 1) <<< 23 := by decide
  rw [hmask]
  refine Nat.eq_of_testBit_eq fun i => ?_
  rw [Nat.testBit_and, Nat.testBit_shiftLeft, Nat.testBit_two_pow_sub_one,
    ← Nat.shiftLeft_eq, Nat.testBit_shiftLeft, Nat.testBit_mod_two_pow,
    ← Nat.shiftRight_eq_div_pow, Nat.testBit_shiftRight]
  by_cases h : 23 ≤ i
  · simp [h, Bool.and_comm]
  · simp [h]

/-- What is finite is a number. -/
theorem isNaN_of_isFinite (h : a.isFinite = true) : a.isNaN = false := by
  rw [isNaN_eq_false_iff, ne_eq, unpack_eq_notANumber_iff]
  intro hlt
  have hlt : 0x7f800000 < a.bits.toNat % 2 ^ 31 := hlt
  have hfull : a.bits.toNat / 2 ^ 23 % 2 ^ 8 = 255 := by omega
  have hmask : a.bits &&& 0x7f800000 = 0x7f800000 := by
    refine UInt32.toNat_inj.1 ?_
    rw [UInt32.toNat_and]
    refine (and_exponent _).trans ?_
    rw [hfull]
    rfl
  rw [isFinite, hmask] at h
  cases h

theorem unpacked_eq (h : a.isNaN = false) :
    a.unpacked = unpack .binary32 a.bits.toBitVec := by
  show unpack .binary32 (pack .binary32 (unpack .binary32 a.bits.toBitVec)) = _
  rw [pack_unpack (isNaN_eq_false_iff.1 h)]

theorem unpacked_ne (h : a.isNaN = false) : a.unpacked ≠ .notANumber := by
  rw [unpacked_eq h]
  exact isNaN_eq_false_iff.1 h

/-- One number is below another when its rank is. -/
theorem less_iff (ha : a.isNaN = false) (hc : c.isNaN = false) :
    a.less c = true ↔ rank a.unpacked < rank c.unpacked := by
  have hless : a.less c = true ↔ a.unpacked.compare c.unpacked = some .lt := by
    show decide _ = true ↔ _
    rw [decide_eq_true_iff]
    show decide ((a.unpacked.compare c.unpacked == some .lt) = true) = true ↔ _
    rw [decide_eq_true_iff, beq_iff_eq]
  rw [hless, compare_eq_compare_rank (unpacked_ne ha) (unpacked_ne hc),
    Option.some.injEq, compare_lt_iff_lt]

/-- Numbers are equal when their ranks are, so zero has one rank. -/
theorem equal_iff (ha : a.isNaN = false) (hc : c.isNaN = false) :
    a.equal c = true ↔ rank a.unpacked = rank c.unpacked := by
  have hequal : a.equal c = true
      ↔ a.unpacked.compare c.unpacked = some .eq := by
    show (a.unpacked.compare c.unpacked == some .eq) = true ↔ _
    rw [beq_iff_eq]
  rw [hequal, compare_eq_compare_rank (unpacked_ne ha) (unpacked_ne hc),
    Option.some.injEq, compare_eq_iff_eq]

/-- A value is at most another one. Nothing is at most a not-a-number. -/
def AtMost (a c : Single) : Prop := a.less c = true ∨ a.equal c = true

/-- A number is at most another when its rank is. -/
theorem atMost_iff (ha : a.isNaN = false) (hc : c.isNaN = false) :
    a.AtMost c ↔ rank a.unpacked ≤ rank c.unpacked := by
  rw [AtMost, less_iff ha hc, equal_iff ha hc, le_iff_lt_or_eq]

/-- Being at most is transitive on numbers. -/
theorem AtMost.trans (ha : a.isNaN = false) (hc : c.isNaN = false)
    (hd : d.isNaN = false) (h : a.AtMost c) (h' : c.AtMost d) : a.AtMost d :=
  (atMost_iff ha hd).2
    (((atMost_iff ha hc).1 h).trans ((atMost_iff hc hd).1 h'))

/-- Every other number is above negative infinity. -/
theorem negInfinity_less (ha : a.isNaN = false) (hne : a ≠ negInfinity) :
    negInfinity.less a = true := by
  have hnumber : a.unpacked ≠ .notANumber := unpacked_ne ha
  have hinfinite : a.unpacked ≠ .infinity .negative := by
    intro heq
    have hback := pack_unpack (isNaN_eq_false_iff.1 ha)
    rw [← unpacked_eq ha, heq] at hback
    have hbits : a.bits = 0xff800000 := UInt32.toBitVec_inj.1 hback.symm
    exact hne (congrArg mk hbits)
  have hfirst (x : ℤ) (y : ℤ ×ₗ ℤ) (hx : -2 < x) :
      rank (.infinity .negative) < toLex (x, y) :=
        Prod.Lex.toLex_lt_toLex.2 (Or.inl hx)
  rw [less_iff rfl ha]
  show rank (.infinity .negative) < _
  cases h : a.unpacked with
  | notANumber => exact absurd h hnumber
  | infinity t =>
      cases t with
      | negative => exact absurd h hinfinite
      | positive => exact hfirst 2 _ (by decide)
  | zero t => exact hfirst 0 _ (by decide)
  | finite t m e h =>
      cases t with
      | negative => exact hfirst (-1) _ (by decide)
      | positive => exact hfirst 1 _ (by decide)

-- =============================================================== maxima

/-- A maximum is one of the two values. -/
theorem max_eq_or : a.max c = a ∨ a.max c = c := by
  unfold max
  by_cases ha : a.isNaN = true
  · exact Or.inr (if_pos ha)
  · rw [if_neg ha]
    by_cases hc : c.isNaN = true
    · exact Or.inl (if_pos hc)
    · rw [if_neg hc]
      by_cases hless : a.less c = true
      · exact Or.inr (if_pos hless)
      · exact Or.inl (if_neg hless)

theorem atMost_refl (ha : a.isNaN = false) : a.AtMost a :=
  (atMost_iff ha ha).2 le_rfl

/-- The maximum of two numbers is a number, and neither is above it. -/
theorem max_bounds (ha : a.isNaN = false) (hc : c.isNaN = false) :
    (a.max c).isNaN = false ∧ a.AtMost (a.max c) ∧ c.AtMost (a.max c) := by
  have heq : a.max c = if a.less c then c else a := by
    rw [max, ha, hc]
    rfl
  by_cases hless : a.less c = true
  · rw [heq, if_pos hless]
    exact ⟨hc, Or.inl hless, atMost_refl hc⟩
  · rw [heq, if_neg hless]
    refine ⟨ha, atMost_refl ha, (atMost_iff hc ha).2 ?_⟩
    rw [less_iff ha hc] at hless
    exact not_lt.1 hless

/-- The maximum of values is one of them. -/
theorem foldl_max_mem {l : List Single} : l.foldl max a ∈ a :: l := by
  induction l generalizing a with
  | nil => exact List.mem_singleton_self a
  | cons c l ih =>
      rw [List.foldl_cons]
      rcases List.mem_cons.1 (ih (a := a.max c)) with heq | hmem
      · rw [heq]
        rcases max_eq_or with hmax | hmax
        · rw [hmax]
          exact List.mem_cons_self
        · rw [hmax]
          exact List.mem_cons_of_mem a List.mem_cons_self
      · exact List.mem_cons_of_mem a (List.mem_cons_of_mem c hmem)

/-- None of the numbers is above their maximum. -/
theorem atMost_foldl_max {l : List Single} (ha : a.isNaN = false)
    (hl : ∀ v ∈ l, v.isNaN = false) :
    (l.foldl max a).isNaN = false ∧ ∀ v ∈ a :: l, v.AtMost (l.foldl max a) := by
  induction l generalizing a with
  | nil =>
      refine ⟨ha, fun v hv => ?_⟩
      rw [List.mem_singleton.1 hv]
      exact atMost_refl ha
  | cons c l ih =>
      have hc := hl c List.mem_cons_self
      obtain ⟨hnumber, hleft, hright⟩ := max_bounds ha hc
      obtain ⟨hresult, hall⟩ :=
        ih hnumber fun v hv => hl v (List.mem_cons_of_mem c hv)
      have hstep := hall (a.max c) List.mem_cons_self
      rw [List.foldl_cons]
      refine ⟨hresult, fun v hv => ?_⟩
      rcases List.mem_cons.1 hv with rfl | hv
      · exact hleft.trans ha hnumber hresult hstep
      · rcases List.mem_cons.1 hv with rfl | hv
        · exact hright.trans hc hnumber hresult hstep
        · exact hall v (List.mem_cons_of_mem _ hv)

/-- Begun at negative infinity, the maximum of some numbers is one of them. -/
theorem foldl_max_negInfinity_mem {l : List Single}
    (hl : ∀ v ∈ l, v.isNaN = false) (hne : l ≠ []) :
    l.foldl max negInfinity ∈ l := by
  rcases List.mem_cons.1
    (foldl_max_mem (a := negInfinity) (l := l)) with heq | hmem
  · obtain ⟨c, hc⟩ := List.exists_mem_of_ne_nil l hne
    obtain ⟨-, hall⟩ := atMost_foldl_max (a := negInfinity) rfl hl
    have hle := hall c (List.mem_cons_of_mem _ hc)
    rw [heq] at hle ⊢
    -- a number that is not above negative infinity is negative infinity
    by_cases heq' : c = negInfinity
    · exact heq' ▸ hc
    · have hlt := negInfinity_less (hl c hc) heq'
      rw [less_iff rfl (hl c hc)] at hlt
      exact absurd ((atMost_iff (hl c hc) rfl).1 hle) (not_le.2 hlt)
  · exact hmem

end Single

end FireNet
