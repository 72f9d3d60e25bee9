/-
Splitting and interleaving, value by value. The split works on the channels
of one pixel, the interleave on pairs of a flat buffer and knows of no
pixel. They line up because a pixel of the result takes as many values as
the two pixels that come into it, so every pair lies inside one pixel
(`Tensor.weave_value?_even`, `Tensor.weave_value?_odd`).

Put together they shuffle the channels of every pixel: channel `j` of `c`
goes to `2 j mod (c - 1)` and the last one stays. That is a permutation
(`channelShuffle`), so a pixel keeps its values and hands none to another
pixel. Two channels stay where they are.
-/
import FireNet.Proofs.Binding
import FireNet.Proofs.Kernel.Elements
import Mathlib.Data.List.FinRange

set_option autoImplicit false

namespace FireNet

-- ================================================================ values

namespace Tensor

variable {x y z : Tensor Single} {py px channel half start : Nat}

/-- Tensors of one shape with the same values are the same. -/
theorem ext_value? (hx : x.Sound) (hy : y.Sound) (hshape : y.shape = x.shape)
    (hvalues : ∀ py < x.shape.height, ∀ px < x.shape.width,
      ∀ channel < x.shape.channels,
        y.value? py px channel = x.value? py px channel) :
    y = x := by
  refine eq_of_value? hshape hy.size_eq hx.size_eq ?_
  rw [hshape]
  exact hvalues

/-- The values of a pixel, channel after channel. -/
theorem pixel?_eq_some {n : Nat} (hx : x.Sound) (hpy : py < x.shape.height)
    (hpx : px < x.shape.width) (hn : x.shape.channels = n) :
    x.pixel? py px
      = some (Array.ofFn fun channel : Fin n => x.value py px channel) := by
  subst hn
  obtain ⟨hpositions, hvolume, -⟩ := Shape.size?_eq_some_iff.1 hx
  have hplace := rowMajor_lt hpy hpx
  have hpixel := Shape.pixel_le hpy hpx
  have hsize := hx.size_eq
  simp only [pixel?, Option.bind_eq_bind]
  rw [Size.mul_eq_some_iff.2 ⟨by omega, rfl⟩, Option.bind_some,
    Size.add_eq_some_iff.2 ⟨by omega, rfl⟩, Option.bind_some,
    Size.mul_eq_some_iff.2 ⟨by omega, rfl⟩, Option.bind_some,
    Size.add_eq_some_iff.2 ⟨by omega, rfl⟩, Option.bind_some, if_pos (by omega)]
  refine congrArg some (Array.ext_getElem? fun i => ?_)
  rw [Array.getElem?_extract, Array.getElem?_ofFn]
  by_cases hi : i < x.shape.channels
  · rw [if_pos (by omega), dif_pos hi]
    exact value?_eq_value hsize hpy hpx hi
  · rw [if_neg (by omega), dif_neg hi]

/-- `z` holds as many channels of `x` as it has itself, from channel `start`
on, for every pixel. -/
structure HoldsChannels (z x : Tensor Single) (start : Nat) : Prop where
  sound : z.Sound
  height_eq : z.shape.height = x.shape.height
  width_eq : z.shape.width = x.shape.width
  value?_eq : ∀ py < x.shape.height, ∀ px < x.shape.width,
    ∀ channel < z.shape.channels,
    z.value? py px channel = x.value? py px (start + channel)

/-- Half of the channels are those of every pixel. -/
theorem channelHalf_holds (hx : x.Sound)
    (hchannels : x.shape.channels = 2 * half) (hstart : start + half ≤ 2 * half)
    (hsound : (x.channelHalf start).Sound) :
    (x.channelHalf start).HoldsChannels x start := by
  have hhalf : x.shape.channels / 2 = half := by omega
  refine ⟨hsound, rfl, rfl, fun py hpy px hpx channel hchannel => ?_⟩
  have hchannel' : channel < half := hhalf ▸ hchannel
  have hplace := rowMajor_lt hpy hpx
  have hrun := run_le (n := half) hplace
  have hvolume : (x.shape.withChannels half).volume
    = x.shape.height * x.shape.width * half := rfl
  rw [value?_eq_value hx.size_eq hpy hpx (by omega)]
  simp only [value?, channelHalf, Shape.withChannels, hhalf, Array.getElem?_map]
  rw [Array.getElem?_range, if_pos (by rw [Shape.volume]; dsimp only; omega),
    Option.map_some, Kernel.mul_add_div_of_lt hchannel',
    Nat.mul_add_mod_of_lt hchannel', value, hchannels]

variable (hx : x.Sound) (hy : y.Sound) (hshape : x.shape = y.shape)
  (hpy : py < x.shape.height) (hpx : px < x.shape.width)
  (hchannel : channel < x.shape.channels)

include hx hy hshape hpy hpx hchannel

/-- The even channels of a merger are those of the first tensor. -/
theorem weave_value?_even :
    (x.weave y).value? py px (2 * channel) = x.value? py px channel := by
  have hpixel := Shape.pixel_le hpy hpx
  have hdouble :=
    Nat.mul_add (py * x.shape.width + px) x.shape.channels x.shape.channels
  have hsize := hx.size_eq
  rw [value?_eq_value hx.size_eq hpy hpx hchannel, value]
  simp only [value?, weave, Shape.withChannels, ← hshape, Array.getElem?_map]
  rw [Array.getElem?_range, if_pos (by rw [hy.size_eq, ← hshape]; omega),
    Option.map_some, if_pos (by omega)]
  congr 2
  omega

/-- The odd channels are those of the second. -/
theorem weave_value?_odd :
    (x.weave y).value? py px (2 * channel + 1) = y.value? py px channel := by
  have hpixel := Shape.pixel_le hpy hpx
  have hdouble :=
    Nat.mul_add (py * x.shape.width + px) x.shape.channels x.shape.channels
  have hsize := hx.size_eq
  rw [value?_eq_value hy.size_eq (hshape ▸ hpy) (hshape ▸ hpx)
    (hshape ▸ hchannel), value]
  simp only [value?, weave, Shape.withChannels, ← hshape, Array.getElem?_map]
  rw [Array.getElem?_range, if_pos (by rw [hy.size_eq, ← hshape]; omega),
    Option.map_some, if_neg (by omega)]
  congr 2
  omega

end Tensor

-- =============================================================== shuffle

/-- Where each of `2 * half` channels goes: the first half to the even
places, the second half to the odd ones. -/
def channelShuffle (half : Nat) : Equiv.Perm (Fin (2 * half)) where
  toFun j :=
    ⟨if j.1 < half then 2 * j.1 else 2 * (j.1 - half) + 1, by split <;> omega⟩
  invFun k :=
    ⟨if k.1 % 2 = 0 then k.1 / 2 else half + k.1 / 2, by split <;> omega⟩
  left_inv j := by
    ext
    by_cases h : j.1 < half
    · simp only [if_pos h, Nat.mul_mod_right, if_true]
      omega
    · simp only [if_neg h]
      rw [if_neg (by omega)]
      omega
  right_inv k := by
    ext
    by_cases h : k.1 % 2 = 0
    · simp only [if_pos h]
      rw [if_pos (by omega)]
      omega
    · simp only [if_neg h]
      rw [if_neg (by omega)]
      omega

/-- All channels but the last are doubled, round the circle of those. -/
theorem channelShuffle_val {half : Nat} {j : Fin (2 * half)}
    (h : j.1 < 2 * half - 1) :
    (channelShuffle half j).1 = 2 * j.1 % (2 * half - 1) := by
  show (if j.1 < half then 2 * j.1 else 2 * (j.1 - half) + 1) = _
  by_cases hj : j.1 < half
  · rw [if_pos hj, Nat.mod_eq_of_lt (by omega)]
  · rw [if_neg hj, Nat.mod_eq_sub_mod (by omega), Nat.mod_eq_of_lt (by omega)]
    omega

/-- The last channel stays. -/
theorem channelShuffle_last {half : Nat} {j : Fin (2 * half)}
    (h : j.1 = 2 * half - 1) :
    (channelShuffle half j).1 = 2 * half - 1 := by
  show (if j.1 < half then 2 * j.1 else 2 * (j.1 - half) + 1) = _
  have hj : ¬j.1 < half := by omega
  rw [if_neg hj]
  omega

/-- `y` is `x` with the channels of every pixel shuffled. -/
structure Tensor.Shuffles (y x : Tensor Single) : Prop where
  shape_eq : y.shape = x.shape
  moves : ∀ py < x.shape.height, ∀ px < x.shape.width,
    ∀ j < x.shape.channels - 1,
    y.value? py px (2 * j % (x.shape.channels - 1)) = x.value? py px j
  keeps_last : ∀ py < x.shape.height, ∀ px < x.shape.width,
    y.value? py px (x.shape.channels - 1)
      = x.value? py px (x.shape.channels - 1)
  permutes : ∀ py < x.shape.height, ∀ px < x.shape.width, ∃ before after,
    x.pixel? py px = some before ∧ y.pixel? py px = some after
      ∧ after.Perm before
  identity : x.shape.channels = 2 → y = x

namespace Tensor

variable {x : Tensor Single} {half : Nat}

/-- The merger of the two halves has the channels of each pixel in their
shuffled places. -/
theorem weave_halves_value? (hx : x.Sound)
    (hchannels : x.shape.channels = 2 * half) (hfirst : x.firstHalf.Sound)
    (hsecond : x.secondHalf.Sound) {py px : Nat} (hpy : py < x.shape.height)
    (hpx : px < x.shape.width) (j : Fin (2 * half)) :
    (x.firstHalf.weave x.secondHalf).value? py px (channelShuffle half j)
      = x.value? py px j := by
  have hhalf : x.shape.channels / 2 = half := by omega
  have hcount : ∀ start, (x.channelHalf start).shape.channels = half :=
    fun _ => hhalf
  show (x.firstHalf.weave x.secondHalf).value? py px
    (if j.1 < half then 2 * j.1 else 2 * (j.1 - half) + 1) = _
  by_cases hj : j.1 < half
  · have hholds : x.firstHalf.HoldsChannels x 0 :=
      channelHalf_holds hx hchannels (by omega) hfirst
    rw [if_pos hj, weave_value?_even hfirst hsecond rfl hpy hpx
      ((hcount 0).symm ▸ hj),
      hholds.value?_eq py hpy px hpx j ((hcount 0).symm ▸ hj), Nat.zero_add]
  · have hholds : x.secondHalf.HoldsChannels x half :=
      hhalf ▸ channelHalf_holds hx hchannels (by omega) hsecond
    have hodd : j.1 - half < half := by omega
    rw [if_neg hj, weave_value?_odd hfirst hsecond rfl hpy hpx
      ((hcount 0).symm ▸ hodd),
      hholds.value?_eq py hpy px hpx _ ((hcount _).symm ▸ hodd),
      show half + (j.1 - half) = j.1 by omega]

/-- The merger of the two halves is a shuffle. -/
theorem weave_halves_shuffles (hx : x.Sound)
    (hchannels : x.shape.channels = 2 * half) (hpos : 0 < half)
    (hfirst : x.firstHalf.Sound) (hsecond : x.secondHalf.Sound)
    (hwoven : (x.firstHalf.weave x.secondHalf).Sound) :
    (x.firstHalf.weave x.secondHalf).Shuffles x := by
  have hhalf : x.shape.channels / 2 = half := by omega
  have hshape : (x.firstHalf.weave x.secondHalf).shape = x.shape := by
    show x.shape.withChannels (x.shape.channels / 2 + x.shape.channels / 2)
      = x.shape
    rw [hhalf, ← Nat.two_mul, ← hchannels]
    rfl
  have hcount : (x.firstHalf.weave x.secondHalf).shape.channels = 2 * half :=
    hshape ▸ hchannels
  have hplace {py px : Nat} (hpy : py < x.shape.height)
      (hpx : px < x.shape.width) (j : Fin (2 * half)) :=
    weave_halves_value? hx hchannels hfirst hsecond hpy hpx j
  have hmoves : ∀ py < x.shape.height, ∀ px < x.shape.width,
    ∀ j < x.shape.channels - 1,
      (x.firstHalf.weave x.secondHalf).value? py px
        (2 * j % (x.shape.channels - 1))
        = x.value? py px j := by
    intro py hpy px hpx j hj
    rw [hchannels] at hj ⊢
    rw [← channelShuffle_val (j := ⟨j, by omega⟩) hj]
    exact hplace hpy hpx ⟨j, by omega⟩
  have hlast : ∀ py < x.shape.height, ∀ px < x.shape.width,
      (x.firstHalf.weave x.secondHalf).value? py px (x.shape.channels - 1)
        = x.value? py px (x.shape.channels - 1) := by
    intro py hpy px hpx
    rw [hchannels]
    have hkept := hplace hpy hpx ⟨2 * half - 1, by omega⟩
    rwa [channelShuffle_last rfl] at hkept
  refine ⟨hshape, hmoves, hlast, fun py hpy px hpx => ⟨_, _,
    pixel?_eq_some hx hpy hpx hchannels,
    pixel?_eq_some hwoven (hshape ▸ hpy) (hshape ▸ hpx) hcount, ?_⟩,
      fun htwo => ?_⟩
  · -- the pixel before is the one after, read through the permutation
    have hread : (fun j : Fin (2 * half) => x.value py px j)
        = (fun j : Fin (2 * half) =>
          (x.firstHalf.weave x.secondHalf).value py px j)
          ∘ channelShuffle half := by
      funext j
      have hvalue := hplace hpy hpx j
      rw [value?_eq_value hx.size_eq hpy hpx (hchannels.symm ▸ j.2 : j.1 < _),
        value?_eq_value hwoven.size_eq (hshape.symm ▸ hpy) (hshape.symm ▸ hpx)
          ((hcount.symm ▸ (channelShuffle half j).2 : (channelShuffle half j).1
            < _))] at hvalue
      exact (Option.some.inj hvalue).symm
    rw [Array.perm_iff_toList_perm, Array.toList_ofFn, Array.toList_ofFn, hread]
    exact (Equiv.Perm.ofFn_comp_perm _ _).symm
  · -- of two channels the first goes to place zero and the second is the last
    refine ext_value? hx hwoven hshape fun py hpy px hpx channel hchannel => ?_
    obtain rfl | rfl : channel = 0 ∨ channel = 1 := by omega
    · have hzero := hmoves py hpy px hpx 0 (by omega)
      rwa [Nat.mul_zero, Nat.zero_mod] at hzero
    · have hone := hlast py hpy px hpx
      rwa [htwo] at hone

end Tensor

-- =============================================================== replay

/-- An image of an even width splits into images of half its width. -/
theorem Split.check_halves {op : String} {height width half : Nat} {same : Bool}
    (hpos : 0 < half) (hlimit : 2 * half < Size.limit) (hsame : same = false) :
    Split.check op ⟨height, width, 2 * half⟩ ⟨height, width, half⟩
      ⟨height, width, half⟩ same
      = .ok () := by
  refine check_eq_ok_iff.2 ⟨⟨?_, ?_⟩, rfl, ⟨?_, ?_⟩, ⟨rfl, rfl⟩, hsame⟩
  · show 0 < 2 * half
    omega
  · show 2 * half % 2 = 0
    omega
  · show half + half < Size.limit
    omega
  · show half + half = 2 * half
    omega

/-- These interleave to an image of that width. -/
theorem Interleave.check_halves {op : String} {height width half : Nat}
    {aliased : Bool} (hpos : 0 < half) (hlimit : 2 * half < Size.limit)
    (haliased : aliased = false) :
    Interleave.check op ⟨height, width, half⟩ ⟨height, width, half⟩
      ⟨height, width, 2 * half⟩ aliased = .ok () := by
  refine check_eq_ok_iff.2 ⟨rfl, hpos, ?_, ?_, haliased⟩
  · show half + half < Size.limit
    omega
  · rw [Nat.two_mul]
    rfl

/-- Splitting a tensor of `2 * half` channels into two others and
interleaving these shuffles the channels of every pixel: both bind, and on
whatever the tensors hold when they are replayed both run, the split first.
The result may go back where the tensor was. -/
theorem Split.interleaved_shuffles {b : Bench} {op op' : String}
    {input first second output : TensorId} {height width half : Nat}
    (hpos : 1 ≤ half) (hlimit : 2 * half < Size.limit)
    (hinput : b.arena.shape? input = some ⟨height, width, 2 * half⟩)
    (hfirst : b.arena.shape? first = some ⟨height, width, half⟩)
    (hsecond : b.arena.shape? second = some ⟨height, width, half⟩)
    (houtput : b.arena.shape? output = some ⟨height, width, 2 * half⟩)
    (hne : first ≠ second) :
    ∃ split shuffle b₁ b₂, Split.setup op input first second b = .ok split b₁
      ∧ Interleave.setup op' split.first split.second output b₁ = .ok shuffle b₂
      ∧ ∀ a : Arena, a.Covers b₂.arena → ∃ x y a₁ a₂, a.tensor? input = some x
        ∧ split.forward a = .ok () a₁ ∧ shuffle.forward a₁ = .ok () a₂
        ∧ a₂.tensor? output = some y
        ∧ x.shape = ⟨height, width, 2 * half⟩ ∧ y.Shuffles x := by
  -- tensors of different widths are different tensors
  have hother {id id' : TensorId}
      (h : b.arena.shape? id = some ⟨height, width, 2 * half⟩)
      (h' : b.arena.shape? id' = some ⟨height, width, half⟩) : id ≠ id' := by
    rintro rfl
    rw [h, Option.some.injEq, Shape.mk.injEq] at h'
    omega
  have hsplit : Split.check op ⟨height, width, 2 * half⟩ ⟨height, width, half⟩
      ⟨height, width, half⟩ (first == second) = .ok () :=
    Split.check_halves hpos hlimit (beq_eq_false_iff_ne.2 hne)
  have haliased : (output == first || output == second) = false := by
    rw [Bool.or_eq_false_iff, beq_eq_false_iff_ne, beq_eq_false_iff_ne]
    exact ⟨hother houtput hfirst, hother houtput hsecond⟩
  have hjoin : Interleave.check op' ⟨height, width, half⟩ ⟨height, width, half⟩
      ⟨height, width, 2 * half⟩ (output == first || output == second)
        = .ok () :=
    Interleave.check_halves hpos hlimit haliased
  refine ⟨_, _, _, _, Split.setup_eq_ok_iff.2
    ⟨_, _, _, hinput, hfirst, hsecond, hsplit, rfl, rfl⟩,
    Interleave.setup_eq_ok_iff.2
      ⟨_, _, _, hfirst, hsecond, houtput, hjoin, rfl, rfl⟩,
    fun a ha => ?_⟩
  obtain ⟨x, hx, hxshape, hxs⟩ := ha _ _ hinput
  obtain ⟨a₁, hrun, hcovers, ⟨hleft, hright⟩, -⟩ := Split.exists_forward
    (s :=
      ⟨op, input, first, second, ⟨height, width, 2 * half⟩,
        ⟨height, width, half⟩⟩) hsplit
    hinput hfirst hsecond ha hx
  obtain ⟨a₂, hjoined, hcovers', hwoven, -⟩ := Interleave.exists_forward
    (s :=
      ⟨op', first, second, output, ⟨height, width, half⟩,
        ⟨height, width, 2 * half⟩⟩) hjoin
    hfirst hsecond houtput hcovers hleft hright
  exact ⟨x, _, a₁, a₂, hx, hrun, hjoined, hwoven, hxshape,
    Tensor.weave_halves_shuffles hxs (by rw [hxshape]) hpos
      (hcovers.found hfirst hleft).2
      (hcovers.found hsecond hright).2 (hcovers'.found houtput hwoven).2⟩

/-- Two pixels of four channels, shuffled in place. -/
theorem Split.interleaved_shuffles_in_place :
    ∃ split shuffle b₁ b₂,
      Split.setup "split" ⟨0⟩ ⟨1⟩ ⟨2⟩
        ⟨Arena.empty.grow [⟨1, 2, 4⟩, ⟨1, 2, 2⟩, ⟨1, 2, 2⟩], #[]⟩ = .ok split b₁
      ∧ Interleave.setup "shuffle" split.first split.second ⟨0⟩ b₁
        = .ok shuffle b₂
      ∧ ∀ a : Arena, a.Covers b₂.arena → ∃ x y a₁ a₂, a.tensor? ⟨0⟩ = some x
        ∧ split.forward a = .ok () a₁ ∧ shuffle.forward a₁ = .ok () a₂
        ∧ a₂.tensor? ⟨0⟩ = some y ∧ x.shape = ⟨1, 2, 2 * 2⟩ ∧ y.Shuffles x :=
  Split.interleaved_shuffles (by decide) (by decide) rfl rfl rfl rfl (by decide)

end FireNet
