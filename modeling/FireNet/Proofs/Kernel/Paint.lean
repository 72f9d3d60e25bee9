/-
What painting leaves in a buffer. `paint?` writes pixel after pixel, cell
after cell; seen from outside it is one statement: when every pixel can be
prepared and every cell has a value, each painted cell holds the value of
its pixel and channel, and each other cell what it held before.

The value of a cell never looks at the buffer, so two buffers of one size
that are painted completely end equal (`paint?_complete`): this is why no
operator ever shows the stale content of its output. Step by step painting
is one write per cell, in order (`paint?_eq_writeAll`).
-/
import FireNet.Kernel.Paint

set_option autoImplicit false

namespace FireNet.Kernel

variable {α τ : Type}

/-- The pixel of a cell, where pixels take `n` cells each. -/
theorem mul_add_div_of_lt {p n c : Nat} (h : c < n) : (p * n + c) / n = p := by
  rw [Nat.mul_comm, Nat.mul_add_div (by omega), Nat.div_eq_of_lt h,
    Nat.add_zero]

-- ============================================================ one pixel

/-- The cells of one pixel, painted from `channel` on. -/
theorem paintChannels?_cells {value : Nat → Option α} {base n channel : Nat}
    {out r : Array α} (h : paintChannels? value base n channel out = some r) :
    r.size = out.size ∧
      ∀ i, r[i]? = if base + channel ≤ i ∧ i < base + channel + n
        then value (i - base) else out[i]? := by
  induction n generalizing channel out with
  | zero =>
      cases h
      refine ⟨rfl, fun i => ?_⟩
      rw [if_neg (by omega)]
  | succ n ih =>
      rw [paintChannels?] at h
      cases hv : value channel with
      | none =>
          rw [hv] at h
          cases h
      | some v =>
          by_cases hlt : base + channel < out.size
          · rw [hv] at h
            simp only [if_pos hlt] at h
            obtain ⟨hsize, hcell⟩ := ih h
            refine ⟨by rw [hsize, Array.size_setIfInBounds], fun i => ?_⟩
            rw [hcell, Array.getElem?_setIfInBounds]
            by_cases hi : base + channel = i
            · subst hi
              rw [if_neg (by omega), if_pos rfl, if_pos hlt, if_pos (by omega),
                Nat.add_sub_cancel_left, hv]
            · rw [if_neg hi]
              by_cases hin : base + channel ≤ i ∧ i < base + channel + (n + 1)
              · rw [if_pos hin, if_pos (by omega)]
              · rw [if_neg hin, if_neg (by omega)]
          · rw [hv] at h
            simp only [if_neg hlt] at h
            cases h

/-- They come out when each has a value and all lie in the buffer. -/
theorem exists_paintChannels? {value : Nat → Option α} (base n channel : Nat)
    (out : Array α) (hfit : base + channel + n ≤ out.size)
    (hvalue : ∀ c, channel ≤ c → c < channel + n → (value c).isSome) :
    ∃ r, paintChannels? value base n channel out = some r := by
  induction n generalizing channel out with
  | zero => exact ⟨out, rfl⟩
  | succ n ih =>
      obtain ⟨v, hv⟩ :=
        Option.isSome_iff_exists.1 (hvalue channel (by omega) (by omega))
      rw [paintChannels?, hv]
      simp only [if_pos (show base + channel < out.size by omega)]
      exact ih (channel + 1) _ (by rw [Array.size_setIfInBounds]; omega)
        (fun c h₁ h₂ => hvalue c (by omega) (by omega))

-- =========================================================== all pixels

variable {channels : Nat} {prepare : Nat → Option τ}
  {value : τ → Nat → Option α}

/-- The value of cell `i` of a painted buffer. -/
def cellValue? (channels : Nat) (prepare : Nat → Option τ)
    (value : τ → Nat → Option α) (i : Nat) : Option α :=
  (prepare (i / channels)).bind fun shared => value shared (i % channels)

/-- The pixels from `p` on. -/
theorem paintFrom?_cells {n p : Nat} {out r : Array α}
    (h : paintFrom? channels prepare value n p out = some r) :
    r.size = out.size ∧
      ∀ i, r[i]? = if p * channels ≤ i ∧ i < (p + n) * channels
        then cellValue? channels prepare value i else out[i]? := by
  induction n generalizing p out with
  | zero =>
      cases h
      refine ⟨rfl, fun i => ?_⟩
      rw [Nat.add_zero, if_neg (by omega)]
  | succ n ih =>
      rw [paintFrom?] at h
      by_cases hroom : p * channels + channels ≤ out.size
      · rw [if_pos hroom] at h
        cases hshared : prepare p with
        | none =>
            rw [hshared] at h
            cases h
        | some shared =>
            rw [hshared] at h
            cases hrow : paintChannels? (value shared)
              (p * channels) channels 0 out with
            | none =>
                simp only [hrow] at h
                cases h
            | some row =>
                simp only [hrow] at h
                obtain ⟨hrowSize, hrowCell⟩ := paintChannels?_cells hrow
                obtain ⟨hsize, hcell⟩ := ih h
                have hnext : (p + 1) * channels = p * channels + channels :=
                  Nat.succ_mul p channels
                have hle : (p + 1) * channels ≤ (p + (n + 1)) * channels :=
                  Nat.mul_le_mul_right channels (by omega)
                have hshift : p + 1 + n = p + (n + 1) := by omega
                refine ⟨by rw [hsize, hrowSize], fun i => ?_⟩
                rw [hcell, hrowCell, hshift, hnext]
                -- below the pixel nothing is painted
                by_cases hlow : i < p * channels
                · rw [if_neg (by omega), if_neg (by omega), if_neg (by omega)]
                by_cases hmid : i < p * channels + channels
                · -- the pixel painted first, which the later ones leave alone
                  have hdiv : i / channels = p := by
                    rw [Nat.div_eq_iff (by omega)]
                    constructor <;> omega
                  have hmod : i % channels = i - p * channels := by
                    have := Nat.div_add_mod i channels
                    rw [hdiv, Nat.mul_comm] at this
                    omega
                  rw [if_neg (by omega), if_pos (by omega), if_pos (by omega)]
                  simp [cellValue?, hdiv, hmod, hshared]
                · rw [if_neg (c := p * channels + 0 ≤ i ∧ _) (by omega)]
                  by_cases hhigh : i < (p + (n + 1)) * channels
                  · rw [if_pos (by omega), if_pos (by omega)]
                  · rw [if_neg (by omega), if_neg (by omega)]
      · rw [if_neg hroom] at h
        cases h

/-- They come out when each can be prepared and its cells have values. -/
theorem exists_paintFrom? (n p : Nat) (out : Array α)
    (hfit : (p + n) * channels ≤ out.size)
    (hpixel : ∀ q, p ≤ q → q < p + n → ∃ shared, prepare q = some shared ∧
      ∀ c < channels, (value shared c).isSome) :
    ∃ r, paintFrom? channels prepare value n p out = some r := by
  induction n generalizing p out with
  | zero => exact ⟨out, rfl⟩
  | succ n ih =>
      obtain ⟨shared, hshared, hvalue⟩ := hpixel p (by omega) (by omega)
      have hnext : (p + 1) * channels = p * channels + channels :=
        Nat.succ_mul p channels
      have hle : (p + 1) * channels ≤ (p + (n + 1)) * channels :=
        Nat.mul_le_mul_right channels (by omega)
      have hroom : p * channels + channels ≤ out.size := by omega
      obtain ⟨row, hrow⟩ :=
        exists_paintChannels? (p * channels) channels 0 out (by omega)
          (fun c _ h => hvalue c (by omega))
      have hshift : p + 1 + n = p + (n + 1) := by omega
      simp only [paintFrom?, if_pos hroom, hshared, hrow]
      exact ih (p + 1) row
        (by rw [(paintChannels?_cells hrow).1, hshift]; exact hfit)
        (fun q h₁ h₂ => hpixel q (by omega) (by omega))

/-- What a painted buffer holds, cell by cell. -/
theorem paint?_cells {positions : Nat} {out r : Array α}
    (h : paint? positions channels prepare value out = some r) :
    r.size = out.size ∧
      ∀ i, r[i]? = if i < positions * channels
        then cellValue? channels prepare value i else out[i]? := by
  obtain ⟨hsize, hcell⟩ := paintFrom?_cells h
  refine ⟨hsize, fun i => ?_⟩
  rw [hcell, Nat.zero_add]
  simp

/-- The value at a position and a channel. -/
theorem paint?_cell {positions p c : Nat} {out r : Array α}
    (h : paint? positions channels prepare value out = some r)
    (hp : p < positions) (hc : c < channels) :
    r[p * channels + c]? = (prepare p).bind fun shared => value shared c := by
  have hle : (p + 1) * channels ≤ positions * channels :=
    Nat.mul_le_mul_right channels hp
  rw [Nat.succ_mul] at hle
  have hdiv : (p * channels + c) / channels = p := mul_add_div_of_lt hc
  have hmod : (p * channels + c) % channels = c := Nat.mul_add_mod_of_lt hc
  rw [(paint?_cells h).2, if_pos (by omega), cellValue?, hdiv, hmod]

/-- Paintings of one buffer with the same values at the same places. -/
theorem paint?_ext {τ' : Type} {positions : Nat} {prepare' : Nat → Option τ'}
    {value' : τ' → Nat → Option α} {out r r' : Array α}
    (h : paint? positions channels prepare value out = some r)
    (h' : paint? positions channels prepare' value' out = some r')
    (hcells : ∀ p < positions, ∀ c < channels,
      ((prepare p).bind fun shared => value shared c)
        = (prepare' p).bind fun shared => value' shared c) : r = r' := by
  refine Array.ext_getElem? fun i => ?_
  rw [(paint?_cells h).2, (paint?_cells h').2]
  by_cases hi : i < positions * channels
  · have hpos : 0 < channels := Nat.pos_of_lt_mul_left hi
    rw [if_pos hi, if_pos hi]
    exact hcells _ ((Nat.div_lt_iff_lt_mul hpos).2 hi) _ (Nat.mod_lt i hpos)
  · rw [if_neg hi, if_neg hi]

/-- A painted buffer, cell by cell. -/
theorem paint?_eq_some (positions channels : Nat) (prepare : Nat → Option τ)
    (value : τ → Nat → Option α) (out : Array α)
    (hfit : positions * channels ≤ out.size)
    (hpixel : ∀ p < positions, ∃ shared, prepare p = some shared ∧
      ∀ c < channels, (value shared c).isSome) :
    ∃ r, paint? positions channels prepare value out = some r
      ∧ r.size = out.size ∧
      ∀ i, r[i]? = if i < positions * channels
        then cellValue? channels prepare value i else out[i]? := by
  obtain ⟨r, hr⟩ := exists_paintFrom? positions 0 out
    (by rwa [Nat.zero_add]) (fun q _ h => hpixel q (by omega))
  exact ⟨r, hr, paint?_cells hr⟩

/-- A pixel that cannot be prepared ends the painting. -/
theorem paintFrom?_eq_none {n p q : Nat} {out : Array α} (hp : p ≤ q)
    (hq : q < p + n) (hnone : prepare q = none) :
    paintFrom? channels prepare value n p out = none := by
  induction n generalizing p out with
  | zero => omega
  | succ n ih =>
      rw [paintFrom?]
      by_cases hroom : p * channels + channels ≤ out.size
      · rw [if_pos hroom]
        cases hprepare : prepare p with
        | none => rfl
        | some shared =>
            have hne : p ≠ q := by
              intro heq
              rw [heq, hnone] at hprepare
              cases hprepare
            simp only
            split
            · rfl
            · exact ih (by omega) (by omega)
      · rw [if_neg hroom]

/-- A buffer that is painted completely ends the same, whatever it held. -/
theorem paint?_complete [Inhabited α] (positions channels : Nat)
    (prepare : Nat → Option τ) (value : τ → Nat → Option α) {size : Nat}
    (hsize : positions * channels = size)
    (hpixel : ∀ p < positions, ∃ shared, prepare p = some shared ∧
      ∀ c < channels, (value shared c).isSome) :
    ∃ r : Array α, r.size = size ∧ ∀ out : Array α, out.size = size →
      paint? positions channels prepare value out = some r := by
  obtain ⟨r, hr, hrSize, hrCell⟩ :=
    paint?_eq_some positions channels prepare value
      (Array.replicate size (default : α))
      (by rw [Array.size_replicate]; omega) hpixel
  rw [Array.size_replicate] at hrSize
  refine ⟨r, hrSize, fun out hout => ?_⟩
  obtain ⟨r', hr', hrSize', hrCell'⟩ :=
    paint?_eq_some positions channels prepare value out (by omega) hpixel
  rw [hr']
  congr 1
  refine Array.ext_getElem? fun i => ?_
  by_cases hi : i < positions * channels
  · rw [hrCell, hrCell', if_pos hi, if_pos hi]
  · rw [Array.getElem?_eq_none (by omega), Array.getElem?_eq_none (by omega)]

-- =========================================================== once more

/-- Whether a pixel comes out depends on the length of the buffer only. -/
theorem exists_paintChannels?_of_size {value : Nat → Option α}
    {base n channel : Nat} {out r other : Array α}
    (h : paintChannels? value base n channel out = some r)
    (hsize : other.size = out.size) :
    ∃ r', paintChannels? value base n channel other = some r' := by
  induction n generalizing channel out other with
  | zero => exact ⟨other, rfl⟩
  | succ n ih =>
      rw [paintChannels?] at h ⊢
      cases hv : value channel with
      | none =>
          rw [hv] at h
          cases h
      | some v =>
          rw [hv] at h
          rw [hsize]
          by_cases hlt : base + channel < out.size
          · simp only [if_pos hlt] at h ⊢
            exact ih h (by
              rw [Array.size_setIfInBounds, Array.size_setIfInBounds, hsize])
          · simp only [if_neg hlt] at h
            cases h

/-- Whether a painting comes out depends on the length of the buffer alone. -/
theorem exists_paintFrom?_of_size {n p : Nat} {out r other : Array α}
    (h : paintFrom? channels prepare value n p out = some r)
    (hsize : other.size = out.size) :
    ∃ r', paintFrom? channels prepare value n p other = some r' := by
  induction n generalizing p out other with
  | zero => exact ⟨other, rfl⟩
  | succ n ih =>
      rw [paintFrom?] at h ⊢
      rw [hsize]
      by_cases hroom : p * channels + channels ≤ out.size
      · rw [if_pos hroom] at h ⊢
        cases hshared : prepare p with
        | none =>
            rw [hshared] at h
            cases h
        | some shared =>
            rw [hshared] at h
            cases hrow : paintChannels? (value shared)
              (p * channels) channels 0 out with
            | none =>
                simp only [hrow] at h
                cases h
            | some row =>
                obtain ⟨row', hrow'⟩ := exists_paintChannels?_of_size hrow hsize
                simp only [hrow] at h
                simp only [hrow']
                exact ih h (by
                  rw [(paintChannels?_cells hrow).1,
                    (paintChannels?_cells hrow').1,
                  hsize])
      · rw [if_neg hroom] at h
        cases h

/-- Painted over once more, a painted buffer is as it was. -/
theorem paint?_again {positions : Nat} {out r : Array α}
    (h : paint? positions channels prepare value out = some r) :
    r.size = out.size ∧ paint? positions channels prepare value r = some r := by
  obtain ⟨hsize, hcell⟩ := paint?_cells h
  obtain ⟨r', hr'⟩ := exists_paintFrom?_of_size h hsize
  obtain ⟨-, hcell'⟩ := paint?_cells hr'
  have hsame : r' = r := by
    refine Array.ext_getElem? fun i => ?_
    rw [hcell']
    by_cases hi : i < positions * channels
    · rw [if_pos hi, hcell, if_pos hi]
    · rw [if_neg hi]
  exact ⟨hsize, hsame ▸ hr'⟩

-- ====================================================== as single writes

/-- Single writes, one after another. -/
def writeAll (writes : List (Nat × α)) (out : Array α) : Array α :=
  writes.foldl (fun out w => out.setIfInBounds w.1 w.2) out

theorem writeAll_append (first later : List (Nat × α)) (out : Array α) :
    writeAll (first ++ later) out = writeAll later (writeAll first out) :=
  List.foldl_append

theorem size_writeAll (writes : List (Nat × α)) (out : Array α) :
    (writeAll writes out).size = out.size := by
  induction writes generalizing out with
  | nil => rfl
  | cons w writes ih => exact (ih _).trans Array.size_setIfInBounds

/-- Channels painted one by one are writes at their places. -/
theorem paintChannels?_eq_writeAll {value : Nat → Option α} {cell : Nat → α}
    (base n channel : Nat) (out : Array α)
    (hfit : base + channel + n ≤ out.size)
    (hvalue : ∀ c, channel ≤ c → c < channel + n → value c = some (cell c)) :
    paintChannels? value base n channel out
      = some (writeAll ((List.range' channel n).map fun c => (base + c, cell c))
        out) := by
  induction n generalizing channel out with
  | zero => rfl
  | succ n ih =>
      rw [paintChannels?, hvalue channel (by omega) (by omega)]
      simp only [if_pos (show base + channel < out.size by omega)]
      exact ih (channel + 1) _ (by rw [Array.size_setIfInBounds]; omega)
        (fun c h₁ h₂ => hvalue c (by omega) (by omega))

/-- Pixels painted one by one are the writes of all their channels. -/
theorem paintFrom?_eq_writeAll {cell : Nat → Nat → α} (n p : Nat)
    (out : Array α) (hfit : (p + n) * channels ≤ out.size)
    (hpixel : ∀ q, p ≤ q → q < p + n → ∃ shared,
      prepare q = some shared ∧ ∀ c < channels,
        value shared c = some (cell q c)) :
    paintFrom? channels prepare value n p out
      = some (writeAll ((List.range' p n).flatMap fun q =>
          (List.range channels).map fun c => (q * channels + c, cell q c))
            out) := by
  induction n generalizing p out with
  | zero => rfl
  | succ n ih =>
      obtain ⟨shared, hshared, hvalue⟩ := hpixel p (by omega) (by omega)
      have hnext : (p + 1) * channels = p * channels + channels :=
        Nat.succ_mul p channels
      have hle : (p + 1) * channels ≤ (p + (n + 1)) * channels :=
        Nat.mul_le_mul_right channels (by omega)
      have hroom : p * channels + channels ≤ out.size := by omega
      have hrow :=
        paintChannels?_eq_writeAll (p * channels) channels 0 out (by omega)
          (fun c _ h => hvalue c (by omega))
      rw [← List.range_eq_range'] at hrow
      have hshift : p + 1 + n = p + (n + 1) := by omega
      simp only [paintFrom?, if_pos hroom, hshared, hrow]
      rw [List.range'_succ, List.flatMap_cons, writeAll_append]
      exact ih (p + 1) _ (by rw [size_writeAll, hshift]; exact hfit)
        (fun q h₁ h₂ => hpixel q (by omega) (by omega))

/-- Painting writes each cell once, in order. -/
theorem paint?_eq_writeAll {cell : Nat → Nat → α} (positions : Nat)
    (out : Array α) (hfit : positions * channels ≤ out.size)
    (hpixel : ∀ p < positions, ∃ shared,
      prepare p = some shared ∧ ∀ c < channels,
        value shared c = some (cell p c)) :
    paint? positions channels prepare value out
      = some (writeAll ((List.range positions).flatMap fun p =>
          (List.range channels).map fun c => (p * channels + c, cell p c))
            out) := by
  rw [show List.range positions
    = List.range' 0 positions from List.range_eq_range']
  exact paintFrom?_eq_writeAll positions 0 out (by rwa [Nat.zero_add])
    (fun q _ h => hpixel q (by omega))

end FireNet.Kernel
