/-
Branches, blocks and stages compute their layers. Each set-up that succeeds
yields a simulation: the bound operator computes the pure function of its
layers on the backend of the handle it was given, in the range of tensors
that the set-up allocated.

A block has two paths that meet in its interleave. Its path *forks*: it
leaves two results, of which neither overwrites the other nor the input;
the interleave then joins them (`Forks.join`).
-/
import FireNet.Operator.Stage
import FireNet.Proofs.Operator.Computes

set_option autoImplicit false

namespace FireNet

variable {b b' : Bench} {name : String} {handle : Handle} {input : TensorId}

-- ============================================================= branches

/-- A bound side branch computes its layers. -/
theorem SideBranch.setup_computes {layers : SideLayers} {s : SideBranch}
    (h : SideBranch.setup name input layers handle b = .ok s b') :
    b.arena.Grows b'.arena
      ∧ Computes b'.arena input s.output b.arena.tensors.size
        b'.arena.tensors.size s.forward (layers.run? handle.backend) := by
  obtain ⟨after, hafter, rfl⟩ := Binding.balanced_eq_ok_iff.1 h
  simp only [Step.bind_eq_ok_iff, Step.pure_eq_ok_iff] at hafter
  obtain ⟨depthwise, b₁, h₁, pointwise, b₂, h₂, rfl, rfl⟩ := hafter
  obtain ⟨hg₁, hc₁⟩ := Binding.convolve_computes (fun _ => rfl) h₁
  obtain ⟨hg₂, hc₂⟩ := Binding.convolve_computes (fun _ => rfl) h₂
  exact ⟨hg₁.trans hg₂, (hc₁.grow hg₂).seq hc₂⟩

/-- A bound main branch computes its layers. -/
theorem MainBranch.setup_computes {layers : MainLayers} {s : MainBranch}
    (h : MainBranch.setup name input layers handle b = .ok s b') :
    b.arena.Grows b'.arena
      ∧ Computes b'.arena input s.output b.arena.tensors.size
        b'.arena.tensors.size s.forward (layers.run? handle.backend) := by
  obtain ⟨after, hafter, rfl⟩ := Binding.balanced_eq_ok_iff.1 h
  simp only [Step.bind_eq_ok_iff, Step.pure_eq_ok_iff] at hafter
  obtain ⟨reduce, b₁, h₁, depthwise, b₂, h₂, expand, b₃, h₃, rfl, rfl⟩ := hafter
  obtain ⟨hg₁, hc₁⟩ := Binding.convolve_computes (fun _ => rfl) h₁
  obtain ⟨hg₂, hc₂⟩ := Binding.convolve_computes (fun _ => rfl) h₂
  obtain ⟨hg₃, hc₃⟩ := Binding.convolve_computes (fun _ => rfl) h₃
  exact ⟨(hg₁.trans hg₂).trans hg₃,
    (hc₁.grow (hg₂.trans hg₃)).seq ((hc₂.grow hg₃).seq hc₃)⟩

-- ================================================================ forks

/-- On arenas that cover `layout`, `step` leaves the two results of `f` over
`input` in `first` and `second` and rewrites only the tensors numbered
from `lo` up to `hi`. -/
structure Forks (layout : Arena) (input first second : TensorId) (lo hi : Nat)
    (step : Step Arena Unit)
    (f : Tensor Single → Option (Tensor Single × Tensor Single)) : Prop where
  input_lt : input.index < lo
  lo_le : lo ≤ hi
  first_lt : first.index < hi
  second_lt : second.index < hi
  hi_le : hi ≤ layout.tensors.size
  run : ∀ (a : Arena) (x : Tensor Single),
    a.Covers layout → a.tensor? input = some x →
    ∃ (y z : Tensor Single) (a' : Arena),
      f x = some (y, z) ∧ step a = .ok () a' ∧
      a'.Covers layout ∧ a'.tensor? first = some y
        ∧ a'.tensor? second = some z ∧
      a.Rewrites a' lo hi

namespace Forks

variable {layout : Arena} {first second : TensorId} {lo m hi : Nat}
  {step step' : Step Arena Unit}

/-- Two computations over one input, each in a range of its own. -/
theorem both {f g : Tensor Single → Option (Tensor Single)}
    (h₁ : Computes layout input first lo m step f)
    (h₂ : Computes layout input second m hi step' g) :
    Forks layout input first second lo hi (do step; step')
      (fun x => do
        let y ← f x
        let z ← g x
        some (y, z)) := by
  refine ⟨h₁.input_lt, Nat.le_trans h₁.lo_le h₂.lo_le,
    Nat.lt_of_lt_of_le h₁.output_lt h₂.lo_le, h₂.output_lt, h₂.hi_le,
    fun a x ha hx => ?_⟩
  obtain ⟨y, a₁, hf, hstep, hcovers, hfirst, hrewrites⟩ := h₁.run a x ha hx
  -- the first computation left the input alone
  have hx₁ : a₁.tensor? input = some x := by
    rw [hrewrites input (Or.inl h₁.input_lt), hx]
  obtain ⟨z, a₂, hg, hstep', hcovers', hsecond, hrewrites'⟩ :=
    h₂.run a₁ x hcovers hx₁
  -- and the second one the result of the first
  have hfirst' : a₂.tensor? first = some y := by
    rw [hrewrites' first (Or.inl h₁.output_lt), hfirst]
  refine ⟨y, z, a₂, ?_, Step.bind_eq_ok_iff.2 ⟨(), a₁, hstep, hstep'⟩,
    hcovers', hfirst',
    hsecond, (hrewrites.widen (Nat.le_refl lo) h₂.lo_le).trans
      (hrewrites'.widen h₁.lo_le (Nat.le_refl hi))⟩
  simp only [hf, hg, Option.bind_eq_bind, Option.bind_some]

/-- A split, then a computation over the second half. -/
theorem ofSplit {s : Split} {f : Tensor Single → Option (Tensor Single)}
    (hcheck : Split.check s.name s.inShape s.halfShape s.halfShape
      (s.first == s.second) = .ok ())
    (hin : layout.shape? s.input = some s.inShape)
    (hfirst : layout.shape? s.first = some s.halfShape)
    (hsecond : layout.shape? s.second = some s.halfShape)
    (hinput : s.input.index < s.first.index)
    (hnext : s.second.index = s.first.index + 1)
    (h : Computes layout s.second second (s.first.index + 2) hi step f) :
    Forks layout s.input s.first second s.first.index hi (do s.forward; step)
      (fun x => do
        let z ← f x.secondHalf
        some (x.firstHalf, z)) := by
  have hlo : s.first.index + 2 ≤ hi := h.lo_le
  refine ⟨hinput, by omega, by omega, h.output_lt, h.hi_le, fun a x ha hx => ?_⟩
  obtain ⟨a₁, hrun, hcovers, ⟨hhalf₁, hhalf₂⟩, hrest⟩ :=
    Split.exists_forward hcheck hin hfirst hsecond ha hx
  obtain ⟨z, a', hf, hstep, hcovers', hout, hrewrites⟩ :=
    h.run _ _ hcovers hhalf₂
  have hsplit : a.Rewrites a₁ s.first.index hi := by
    refine fun id hid => hrest id ?_ ?_
    · rintro rfl
      omega
    · rintro rfl
      omega
  -- the first half lies below all that the computation rewrites
  have hkept : a'.tensor? s.first = some x.firstHalf := by
    rw [hrewrites s.first (Or.inl (by omega)), hhalf₁]
  refine ⟨x.firstHalf, z, a', ?_, Step.bind_eq_ok_iff.2 ⟨(), _, hrun, hstep⟩,
    hcovers',
    hkept, hout, hsplit.trans (hrewrites.widen (by omega) (Nat.le_refl hi))⟩
  simp only [hf, Option.bind_eq_bind, Option.bind_some]

/-- What is allocated later does not matter. -/
theorem grow {layout' : Arena}
    {f : Tensor Single → Option (Tensor Single × Tensor Single)}
    (h : Forks layout input first second lo hi step f)
    (hg : layout.Grows layout') :
    Forks layout' input first second lo hi step f := by
  refine ⟨h.input_lt, h.lo_le, h.first_lt, h.second_lt,
    Nat.le_trans h.hi_le hg.size_le,
    fun a x ha hx => ?_⟩
  obtain ⟨y, z, a', hf, hstep, hcovers, hfirst, hsecond, hrewrites⟩ :=
    h.run a x (ha.of_grows hg) hx
  exact ⟨y, z, a', hf, hstep, ha.of_rewrites_grows hg h.hi_le hcovers hrewrites,
    hfirst, hsecond, hrewrites⟩

/-- The interleave of the two results leaves these where they are and their
merger in a tensor of its own. -/
theorem join {s : Interleave}
    {f : Tensor Single → Option (Tensor Single × Tensor Single)} {a : Arena}
    {x : Tensor Single}
    (h : Forks layout input s.first s.second lo s.output.index step f)
    (hcheck : Interleave.check s.name s.halfShape s.halfShape s.outShape
      (s.output == s.first || s.output == s.second) = .ok ())
    (hfirst : layout.shape? s.first = some s.halfShape)
    (hsecond : layout.shape? s.second = some s.halfShape)
    (hout : layout.shape? s.output = some s.outShape) (ha : a.Covers layout)
    (hx : a.tensor? input = some x) :
    ∃ (y z : Tensor Single) (a' : Arena), f x = some (y, z) ∧
      (do step; s.forward : Step Arena Unit) a = .ok () a' ∧ a'.Covers layout ∧
      (a'.tensor? s.first = some y ∧ a'.tensor? s.second = some z) ∧
      a'.tensor? s.output = some (y.weave z)
        ∧ a.Rewrites a' lo (s.output.index + 1) := by
  obtain ⟨y, z, a₁, hf, hstep, hcovers, hy, hz, hrewrites⟩ := h.run a x ha hx
  obtain ⟨a', hrun, hcovers', hwoven, hrest⟩ :=
    Interleave.exists_forward hcheck hfirst hsecond hout hcovers hy hz
  obtain ⟨-, -, -, -, haliased⟩ := Interleave.check_eq_ok_iff.1 hcheck
  rw [Bool.or_eq_false_iff, beq_eq_false_iff_ne,
    beq_eq_false_iff_ne] at haliased
  have hlo := h.lo_le
  have hjoined : a₁.Rewrites a' lo (s.output.index + 1) := by
    refine fun id hid => hrest id ?_
    rintro rfl
    omega
  refine ⟨y, z, a', hf, Step.bind_eq_ok_iff.2 ⟨(), a₁, hstep, hrun⟩, hcovers',
    ⟨?_, ?_⟩, hwoven,
    (hrewrites.widen (Nat.le_refl lo) (Nat.le_succ _)).trans hjoined⟩
  · rw [hrest _ haliased.1.symm, hy]
  · rw [hrest _ haliased.2.symm, hz]

end Forks

-- =============================================================== blocks

namespace Block

variable {layers : BlockLayers} {inShape : Shape}

/-- A bound downsampling path leaves the results of both branches. -/
theorem setup_downsample_forks {sideLayers : SideLayers} {side : SideBranch}
    {main : MainBranch} {b₁ : Bench} {sideName mainName : String}
    (hlayers : layers.side = some sideLayers)
    (hside : SideBranch.setup sideName input sideLayers handle b = .ok side b₁)
    (hmain : MainBranch.setup mainName input layers.main handle b₁
      = .ok main b') :
    b.arena.Grows b'.arena
      ∧ Forks b'.arena input side.output main.output b.arena.tensors.size
        b'.arena.tensors.size (BlockPath.downsample side main).forward
        (layers.paths? handle.backend) := by
  obtain ⟨hg₁, hc₁⟩ := SideBranch.setup_computes hside
  obtain ⟨hg₂, hc₂⟩ := MainBranch.setup_computes hmain
  refine ⟨hg₁.trans hg₂, ?_⟩
  rw [BlockLayers.paths?_of_some handle.backend hlayers]
  exact Forks.both (hc₁.grow hg₂) hc₂

/-- A bound path that keeps the size leaves the first half of the input and
the result of the main branch over the second. -/
theorem setup_keep_forks {half : Shape} {split : Split} {main : MainBranch}
    {b₁ : Bench} {splitName mainName : String} (hlayers : layers.side = none)
    (hfits : half.Fits) (hin : b.arena.shape? input = some inShape)
    (hsplit : Split.setup splitName input ⟨b.arena.tensors.size⟩
      ⟨b.arena.tensors.size + 1⟩ ⟨b.arena.grow [half, half], b.events⟩
        = .ok split b₁)
    (hmain : MainBranch.setup mainName ⟨b.arena.tensors.size + 1⟩ layers.main
      handle b₁ = .ok main b') :
    b.arena.Grows b'.arena
      ∧ Forks b'.arena input split.first main.output b.arena.tensors.size
        b'.arena.tensors.size (BlockPath.keep split main).forward
        (layers.paths? handle.backend) := by
  obtain ⟨shape, halfShape, otherShape, hshape, hfirst, hsecond, hcheck,
      rfl, rfl⟩ :=
    Split.setup_eq_ok_iff.1 hsplit
  obtain ⟨hg, hc⟩ := MainBranch.setup_computes hmain
  have hgrows : b.arena.Grows (b.arena.grow [half, half]) := by
    have := Arena.grows_one (a := b.arena.grow [half]) hfits
    rw [Arena.grow_grow] at this
    exact (Arena.grows_one hfits).trans this
  -- the check makes the halves of one shape
  obtain ⟨-, rfl, -⟩ := Split.check_eq_ok_iff.1 hcheck
  refine ⟨hgrows.trans hg, ?_⟩
  have hsize : (b.arena.grow [half, half]).tensors.size
      = b.arena.tensors.size + 2 :=
    Arena.size_grow [half, half]
  rw [BlockLayers.paths?_of_none handle.backend hlayers]
  exact Forks.ofSplit (s := ⟨splitName, input, ⟨b.arena.tensors.size⟩,
    ⟨b.arena.tensors.size + 1⟩, shape, halfShape⟩) hcheck (hg.shape? hshape)
    (hg.shape? hfirst) (hg.shape? hsecond) (Arena.shape?_eq_some_lt hin) rfl
    (by rw [← hsize]; exact hc)

/-- A bound path leaves the two tensors that its block merges. -/
theorem setupPath_forks {path : BlockPath}
    (hin : b.arena.shape? input = some inShape)
    (h : setupPath name input inShape layers handle b = .ok path b') :
    b.arena.Grows b'.arena
      ∧ Forks b'.arena input path.first path.second b.arena.tensors.size
        b'.arena.tensors.size path.forward (layers.paths? handle.backend) := by
  rcases setupPath_cases h with ⟨half, split, main, b₁, ⟨-, hside, -⟩, -, hfits,
    hsplit, hmain, rfl⟩
    | ⟨sideLayers, side, main, b₁, -, hlayers, hside, hmain, rfl⟩
  · exact setup_keep_forks hside hfits hin hsplit hmain
  · exact setup_downsample_forks hlayers hside hmain

namespace Binds

variable {b₁ : Bench} {image half : Shape} {block : Block}
  (h : Binds name input layers handle b b₁ b' image half block)

include h

/-- The path adds tensors only, and forks the input into two halves. -/
theorem path_forks : b.arena.Grows b₁.arena
    ∧ Forks b₁.arena input block.path.first block.path.second
      b.arena.tensors.size
      b₁.arena.tensors.size block.path.forward (layers.paths? handle.backend) :=
  setupPath_forks (b := ⟨b.arena, #[]⟩) h.input_shape h.path

/-- The result is allocated behind the path. -/
theorem grows : b₁.arena.Grows b'.arena := by
  rw [h.arena_eq]
  exact Arena.grows_one h.fits

/-- The output is the tensor that the block adds last. -/
theorem output_eq : block.output = ⟨b₁.arena.tensors.size⟩ := by
  rw [output, h.shuffle_eq]

/-- It has the halves side by side. -/
theorem output_shape :
    b'.arena.shape? block.output = some (half.withChannels layers.outputs) := by
  rw [h.output_eq, h.arena_eq]
  exact Arena.shape?_grow_added (i := 0)

/-- One tensor is added after those of the path. -/
theorem size_eq : b'.arena.tensors.size = b₁.arena.tensors.size + 1 := by
  rw [h.arena_eq]
  exact Arena.size_grow [_]

/-- A bound block leaves the results of both paths and their merger. -/
theorem run {a : Arena} {x : Tensor Single} (ha : a.Covers b'.arena)
    (hx : a.tensor? input = some x) :
    ∃ (first second : Tensor Single) (a' : Arena),
      layers.paths? handle.backend x = some (first, second)
      ∧ block.forward a = .ok () a' ∧ a'.Covers b'.arena
      ∧ (a'.tensor? block.path.first = some first
        ∧ a'.tensor? block.path.second = some second)
      ∧ a'.tensor? block.output = some (first.weave second)
      ∧ a.Rewrites a' b.arena.tensors.size b'.arena.tensors.size := by
  have hout := h.output_shape
  have hcheck := h.check
  rw [h.output_eq] at hout hcheck
  obtain ⟨blockName, path, shuffle⟩ := block
  obtain rfl : shuffle = ⟨s!"{name}.shuffle", path.first, path.second,
    ⟨b₁.arena.tensors.size⟩, half, half.withChannels layers.outputs⟩ :=
      h.shuffle_eq
  rw [h.size_eq]
  exact (h.path_forks.2.grow h.grows).join (s := ⟨_, path.first, path.second,
    ⟨b₁.arena.tensors.size⟩, half, half.withChannels layers.outputs⟩) hcheck
    (h.grows.shape? h.first_shape) h.second_shape hout ha hx

end Binds

/-- A bound block computes its layers. -/
theorem setup_computes {block : Block}
    (h : setup name input layers handle b = .ok block b') :
    b.arena.Grows b'.arena
      ∧ Computes b'.arena input block.output b.arena.tensors.size
        b'.arena.tensors.size block.forward (layers.run? handle.backend) := by
  obtain ⟨b₁, image, half, hbinds⟩ := exists_binds h
  obtain ⟨hgrows, hforks⟩ := hbinds.path_forks
  have hsize := hbinds.grows.size_le
  refine ⟨hgrows.trans hbinds.grows, hforks.input_lt,
    Nat.le_trans hforks.lo_le hsize,
    Arena.shape?_eq_some_lt hbinds.output_shape, Nat.le_refl _,
    fun a x ha hx => ?_⟩
  obtain ⟨first, second, a', hpaths, hrun, hcovers, -, hwoven, hrewrites⟩ :=
    hbinds.run ha hx
  refine ⟨first.weave second, a', ?_, hrun, hcovers, hwoven, hrewrites⟩
  rw [BlockLayers.run?, hpaths]
  rfl

end Block

end FireNet
