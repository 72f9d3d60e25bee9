/-
Which architectures can be declared: those that are valid, when every
buffer that the layers take can exist. The largest buffers are the weights
of the layers and the lists of blocks; a bias has one value for each
output, so it is never larger than the weights beside it.

That the listed buffers can exist is used in the order of the declaration,
one layer after another, and the stages by induction with the width that
they are given generalised.
-/
import FireNet.Proofs.Weights.Declared

set_option autoImplicit false

namespace FireNet

-- ============================================================== buffers

/-- The bytes of the weights of a layer, given their number. -/
def weightBytes (weights : Nat) : Nat := weights * Element.bytes Single

/-- The bytes of the largest buffers of the stages: of each its list of
blocks, then the weights of the layers that its blocks are made of. -/
def stageBuffers : (inputs : Nat) → List (Nat × Nat) → List Nat
  | _, [] => []
  | inputs, (repeats, width) :: rest =>
    let half := width / 2
    [repeats * BlockLayers.bytes, weightBytes (inputs * 3 * 3),
      weightBytes (half * inputs),
      weightBytes (half * 3 * 3), weightBytes (half * half)]
        ++ stageBuffers width rest

/-- The bytes of the largest buffers that parameters of an architecture
take. -/
def Architecture.buffers (a : Architecture) : List Nat :=
  let stem := a.widths.headD 0
  let head := a.widths.getLastD 0
  [weightBytes (stem * 3 * 3 * Parameters.inputChannels),
    weightBytes (head * a.widths.dropLast.getLastD 0), weightBytes head]
      ++ stageBuffers stem (a.repeats.zip a.stageWidths)

-- =============================================================== layers

namespace Layer

variable {inputs outputs channels kernel : Nat} (stride padding : Nat)
  (activation : Activation)

/-- A layer is declared when its weights are not too large, the bias being
no larger. -/
theorem exists_declare? {weights : Nat} {w : Window} (hbias : outputs ≤ weights)
    (h : weightBytes weights ≤ Size.maxBytes) :
    ∃ l, declare? inputs outputs weights w activation = some l := by
  unfold weightBytes at h
  have hle : outputs * Element.bytes Single ≤ Size.maxBytes :=
    Nat.le_trans (Nat.mul_le_mul_right _ hbias) h
  unfold declare? FireNet.zeros?
  rw [if_pos h, if_pos hle]
  exact ⟨_, rfl⟩

/-- A product of sizes whose values can be stored is a size. -/
theorem lt_limit {n weights : Nat} (hle : n ≤ weights)
    (h : weightBytes weights ≤ Size.maxBytes) :
    n < Size.limit := by
  have hmax : Size.maxBytes < Size.limit := by decide
  have hbytes : weights ≤ weightBytes weights :=
    Nat.le_mul_of_pos_right _ (by decide)
  omega

/-- A dense convolution is declared when its weights can exist. -/
theorem exists_convolution? (hkernel : 0 < kernel) (hinputs : 0 < inputs)
    (h : weightBytes (outputs * kernel * kernel * inputs) ≤ Size.maxBytes) :
    ∃ l, convolution? outputs inputs kernel stride padding activation
      = some l := by
  have hall : outputs * kernel * kernel ≤ outputs * kernel * kernel * inputs :=
    Nat.le_mul_of_pos_right _ hinputs
  have hrow : outputs * kernel ≤ outputs * kernel * kernel :=
    Nat.le_mul_of_pos_right _ hkernel
  have hone : outputs ≤ outputs * kernel := Nat.le_mul_of_pos_right _ hkernel
  have h₁ :=
    Size.mul_eq_some_iff.2 ⟨lt_limit (by omega : outputs * kernel ≤ _) h, rfl⟩
  have h₂ := Size.mul_eq_some_iff.2 ⟨lt_limit hall h, rfl⟩
  have h₃ := Size.mul_eq_some_iff.2 ⟨lt_limit (Nat.le_refl _) h, rfl⟩
  simp only [convolution?, h₁, h₂, h₃, Option.bind_eq_bind, Option.bind_some]
  exact exists_declare? activation (by omega) h

theorem exists_pointwise? (hinputs : 0 < inputs)
    (h : weightBytes (outputs * inputs) ≤ Size.maxBytes) :
    ∃ l, pointwise? outputs inputs activation = some l := by
  apply exists_convolution? 1 0 activation (by decide) hinputs
  rw [Nat.mul_one, Nat.mul_one]
  exact h

theorem exists_depthwise? (hkernel : 0 < kernel)
    (h : weightBytes (channels * kernel * kernel) ≤ Size.maxBytes) :
    ∃ l, depthwise? channels kernel stride padding activation = some l := by
  have hrow : channels * kernel ≤ channels * kernel * kernel :=
    Nat.le_mul_of_pos_right _ hkernel
  have hone : channels ≤ channels * kernel := Nat.le_mul_of_pos_right _ hkernel
  have h₁ := Size.mul_eq_some_iff.2 ⟨lt_limit hrow h, rfl⟩
  have h₂ := Size.mul_eq_some_iff.2 ⟨lt_limit (Nat.le_refl _) h, rfl⟩
  simp only [depthwise?, h₁, h₂, Option.bind_eq_bind, Option.bind_some]
  exact exists_declare? activation (by omega) h

theorem exists_fullyConnected? (hinputs : 0 < inputs)
    (h : weightBytes (outputs * inputs) ≤ Size.maxBytes) :
    ∃ l, fullyConnected? outputs inputs activation = some l := by
  have hone : outputs ≤ outputs * inputs := Nat.le_mul_of_pos_right _ hinputs
  unfold fullyConnected?
  rw [Size.mul_eq_some_iff.2 ⟨lt_limit (Nat.le_refl _) h, rfl⟩]
  exact exists_declare? activation hone h

end Layer

-- =============================================================== blocks

variable {inputs width repeats : Nat} (stride : Nat)

/-- A main branch of stride 1 sees half of the width. -/
theorem MainLayers.exists_declare? (inputs : Nat) {seen : Nat}
    (hwidth : 0 < width / 2)
    (hseen : (if 1 < stride then inputs else width / 2) = seen)
    (hpos : 0 < seen) (hreduce : weightBytes (width / 2 * seen) ≤ Size.maxBytes)
    (hdepthwise : weightBytes (width / 2 * 3 * 3) ≤ Size.maxBytes)
    (hexpand : weightBytes (width / 2 * (width / 2)) ≤ Size.maxBytes) :
    ∃ m, declare? width inputs stride = some m := by
  obtain ⟨reduce, h₁⟩ := Layer.exists_pointwise? .relu hpos hreduce
  obtain ⟨depthwise, h₂⟩ :=
    Layer.exists_depthwise? stride 1 .identity (by decide) hdepthwise
  obtain ⟨expand, h₃⟩ := Layer.exists_pointwise? .relu hwidth hexpand
  simp only [declare?, hseen, h₁, h₂, h₃, Option.bind_eq_bind, Option.bind_some]
  exact ⟨_, rfl⟩

/-- A side branch is declared when both of its layers are. -/
theorem SideLayers.exists_declare? (hinputs : 0 < inputs)
    (hdepthwise : weightBytes (inputs * 3 * 3) ≤ Size.maxBytes)
    (hpointwise : weightBytes (width / 2 * inputs) ≤ Size.maxBytes) :
    ∃ s, declare? width inputs stride = some s := by
  obtain ⟨depthwise, h₁⟩ :=
    Layer.exists_depthwise? stride 1 .identity (by decide) hdepthwise
  obtain ⟨pointwise, h₂⟩ := Layer.exists_pointwise? .relu hinputs hpointwise
  simp only [declare?, h₁, h₂, Option.bind_eq_bind, Option.bind_some]
  exact ⟨_, rfl⟩

/-- Later blocks are declared alike, so one is enough. -/
theorem BlockLayers.exists_declare_row {b : BlockLayers}
    (h : declare? width width 1 = some b) (n : Nat) :
    ∃ blocks, ((List.replicate n ()).mapM fun _ => declare? width width 1)
      = some blocks := by
  induction n with
  | zero => exact ⟨[], rfl⟩
  | succ n ih =>
      obtain ⟨later, hlater⟩ := ih
      refine ⟨b :: later, ?_⟩
      rw [List.replicate_succ, List.mapM_cons, hlater, h]
      rfl

/-- What the layers of a stage need. -/
structure StageStorable (inputs width : Nat) : Prop where
  side : weightBytes (inputs * 3 * 3) ≤ Size.maxBytes
  reduce : weightBytes (width / 2 * inputs) ≤ Size.maxBytes
  depthwise : weightBytes (width / 2 * 3 * 3) ≤ Size.maxBytes
  expand : weightBytes (width / 2 * (width / 2)) ≤ Size.maxBytes

section

variable (h : StageStorable inputs width) (hwidth : 0 < width / 2)
include h hwidth

/-- The first block of a stage is declared. -/
theorem BlockLayers.exists_declare_first (hinputs : 0 < inputs) :
    ∃ b, declare? width inputs 2 = some b := by
  obtain ⟨side, h₁⟩ := SideLayers.exists_declare? 2 hinputs h.side h.reduce
  obtain ⟨main, h₂⟩ :=
    MainLayers.exists_declare? 2 inputs hwidth (if_pos (by decide))
      hinputs h.reduce h.depthwise h.expand
  rw [declare?, if_pos (by decide)]
  simp only [h₁, h₂, Option.map_some, Option.bind_eq_bind, Option.bind_some]
  exact ⟨_, rfl⟩

theorem BlockLayers.exists_declare_later :
    ∃ b, declare? width width 1 = some b := by
  obtain ⟨main, h₁⟩ :=
    MainLayers.exists_declare? 1 width hwidth (if_neg (by decide))
      hwidth h.expand h.depthwise h.expand
  rw [declare?, if_neg (by decide)]
  simp only [h₁, Option.bind_eq_bind, Option.bind_some]
  exact ⟨_, rfl⟩

theorem StageLayers.exists_declare? (hinputs : 0 < inputs)
    (hblocks : repeats * BlockLayers.bytes ≤ Size.maxBytes) :
    ∃ s, declare? repeats width inputs = some s := by
  have hfits : ¬Size.maxBytes < repeats * BlockLayers.bytes :=
    Nat.not_lt.2 hblocks
  cases repeats with
  | zero => exact ⟨⟨[]⟩, rfl⟩
  | succ n =>
      obtain ⟨first, hfirst⟩ :=
        BlockLayers.exists_declare_first h hwidth hinputs
      obtain ⟨block, hblock⟩ := BlockLayers.exists_declare_later h hwidth
      obtain ⟨later, hlater⟩ := BlockLayers.exists_declare_row hblock n
      simp only [declare?, if_neg hfits, hfirst, hlater, Option.bind_eq_bind,
        Option.bind_some]
      exact ⟨_, rfl⟩

end

-- ========================================================== architectures

/-- So are the stages of a plan, each from the width before it. -/
theorem Parameters.exists_declareStages? {plan : List (Nat × Nat)}
    (hinputs : 0 < inputs)
    (hwidths : ∀ entry ∈ plan, 0 < entry.2 ∧ entry.2 % 2 = 0)
    (h : ∀ n ∈ stageBuffers inputs plan, n ≤ Size.maxBytes) :
    ∃ stages, declareStages? inputs plan = some stages := by
  induction plan generalizing inputs with
  | nil => exact ⟨[], rfl⟩
  | cons entry rest ih =>
      obtain ⟨repeats, width⟩ := entry
      obtain ⟨hpos, heven⟩ := hwidths _ List.mem_cons_self
      simp only [stageBuffers, List.mem_append, List.mem_cons,
        List.not_mem_nil, or_false, or_imp, forall_and, forall_eq] at h
      obtain ⟨⟨hblocks, hside, hreduce, hdepthwise, hexpand⟩, hrest⟩ := h
      obtain ⟨stage, hstage⟩ := StageLayers.exists_declare?
        ⟨hside, hreduce, hdepthwise, hexpand⟩ (by omega) hinputs hblocks
      obtain ⟨later, hlater⟩ :=
        ih hpos (fun entry hentry => hwidths entry
          (List.mem_cons_of_mem _ hentry)) hrest
      simp only [declareStages?, hstage, hlater, Option.bind_eq_bind,
        Option.bind_some]
      exact ⟨_, rfl⟩

/-- A valid architecture can be declared when its buffers can exist. -/
theorem Parameters.exists_declare {a : Architecture}
    (hvalid : a.validate = .ok ()) (h : ∀ n ∈ a.buffers, n ≤ Size.maxBytes) :
    ∃ p, declare a = .ok p := by
  obtain ⟨first, last, middle, ha⟩ := Architecture.valid_of_validate hvalid
  simp only [Architecture.buffers, List.mem_append, List.mem_cons,
    List.not_mem_nil, or_false, or_imp, forall_and, forall_eq] at h
  obtain ⟨⟨hstem, hhead, hclassifier⟩, hstages⟩ := h
  rw [ha.headD_widths] at hstem hstages
  rw [ha.getLastD_widths] at hhead hclassifier
  rw [ha.widths_eq, List.dropLast_concat] at hhead
  rw [ha.stageWidths_eq] at hstages
  obtain ⟨stages, h₁⟩ := exists_declareStages? ha.stem_pos ha.plan_even hstages
  obtain ⟨stem, h₂⟩ :=
    Layer.exists_convolution? 2 1 .relu (by decide) (by decide) hstem
  obtain ⟨head, h₃⟩ := Layer.exists_pointwise? .relu ha.lastWidth_pos hhead
  obtain ⟨classifier, h₄⟩ : ∃ l,
      Layer.fullyConnected? 1 last .identity = some l :=
    Layer.exists_fullyConnected? .identity ha.head_pos
      (by rw [Nat.one_mul]; exact hclassifier)
  refine ⟨⟨a, stem, head, classifier, stages⟩, ?_⟩
  simp only [declare, Outcome.bind_eq_ok_iff, Outcome.ofOption_eq_ok_iff,
    Option.bind_eq_bind, Option.bind_eq_some_iff, Option.some.injEq]
  rw [ha.headD_widths, ha.getLastD_widths, ha.stageWidths_eq, ha.widths_eq,
    List.dropLast_concat]
  exact ⟨(), hvalid, stages, h₁, stem, h₂, head, h₃, classifier, h₄, rfl⟩

end FireNet
