/-
Which operator has which layer. The parameters number stages, blocks,
branches and layers to name blobs; set-ups number them again to name
operators. The two numberings are one: the operators that a stage binds, in
the order of the pass, are those of its listed layers, each under the path
of the address of its layer and of the kind that the address asks for.
Paths tell addresses apart, so no two operators have one name.

The match is a relation between a list of operators and a list of layers
(`Wires`) that holds of the empty lists, of one convolution and of two
lists behind one another. So each level of a set-up is matched by putting
its parts together, in the order in which it binds them; no level looks
into another.
-/
import FireNet.Operator.Stage
import FireNet.Proofs.Binding
import FireNet.Proofs.Operator.Blank
import FireNet.Proofs.Weights.Names

set_option autoImplicit false

namespace FireNet

-- ================================================================ paths

namespace LayerAddress

/-- The name of the operator of a layer. -/
def path : LayerAddress → String
  | stem => "c1"
  | head => "c5"
  | classifier => "fc"
  | block stage repetition branch index =>
    s!"s{stage}r{repetition}.branch{branch.digit}.conv{index}"

/-- What the operator of a layer computes: the first layer of a side branch
and the second of a main branch filter each channel by itself. -/
def action : LayerAddress → Layer → Action
  | classifier => .fullyConnected
  | block _ _ .one 0 => .depthwise
  | block _ _ .two 1 => .depthwise
  | _ => .convolution

/-- A path is put together level by level. -/
theorem path_block {stage repetition index : Nat} {branch : BranchNumber}
    {branchPart layerPart : String}
    (hbranch : branchPart = ".branch" ++ toString branch.digit)
    (hlayer : layerPart = ".conv" ++ toString index) :
    s!"s{stage}r{repetition}" ++ branchPart ++ layerPart
      = (block stage repetition branch index).path := by
  rw [hbranch, hlayer]
  simp only [path, toString, String.append_assoc]

end LayerAddress

-- =============================================================== halves

/-- The values of one half of a layer. -/
def Layer.half? (layer : Layer) : BlobKind → Option (Array Single)
  | .weight => some layer.weights
  | .bias => layer.bias

namespace Action

/-- The values of one half of the parameters of an action. -/
def half? (action : Action) (kind : BlobKind) : Option (Array Single) :=
  action.layer?.bind fun layer => layer.half? kind

/-- How many values an action takes for one half of its parameters. -/
def count : Action → BlobKind → Nat
  | convolution layer, .weight =>
    layer.outputs * layer.window.vertical.kernel
      * layer.window.horizontal.kernel * layer.inputs
  | depthwise layer, .weight =>
    layer.outputs * layer.window.vertical.kernel
      * layer.window.horizontal.kernel
  | fullyConnected layer, .weight => layer.outputs * layer.inputs
  | convolution layer, .bias => layer.outputs
  | depthwise layer, .bias => layer.outputs
  | fullyConnected layer, .bias => layer.outputs
  | maxPool _, _ => 0
  | meanPool, _ => 0

end Action

-- The halves and the blank together are the whole, on each level.

/-- A layer is its values and what is left without them. -/
theorem Layer.ext_blank {a b : Layer} (hblank : a.blank = b.blank)
    (hhalves : ∀ kind, a.half? kind = b.half? kind) : a = b := by
  have hweights : a.weights = b.weights := Option.some.inj (hhalves .weight)
  have hbias : a.bias = b.bias := hhalves .bias
  have hvalues : a.values = b.values := by rw [values, values, hweights, hbias]
  have ha : a.blank.refill (a.values ++ []) = (a, []) := Layer.refill_blank
  rw [hblank, hvalues, Layer.refill_blank] at ha
  injection ha with hab
  exact hab.symm

theorem Action.ext_blank {a b : Action} (hblank : a.blank = b.blank)
    (hhalves : ∀ kind, a.half? kind = b.half? kind) : a = b := by
  cases a with
  | convolution layer =>
      cases b with
      | convolution layer' =>
          injection hblank with hblank
          rw [Layer.ext_blank hblank hhalves]
      | _ => cases hblank
  | depthwise layer =>
      cases b with
      | depthwise layer' =>
          injection hblank with hblank
          rw [Layer.ext_blank hblank hhalves]
      | _ => cases hblank
  | fullyConnected layer =>
      cases b with
      | fullyConnected layer' =>
          injection hblank with hblank
          rw [Layer.ext_blank hblank hhalves]
      | _ => cases hblank
  | maxPool window =>
      cases b with
      | maxPool window' => exact hblank
      | _ => cases hblank
  | meanPool =>
      cases b with
      | meanPool => rfl
      | _ => cases hblank

theorem Primitive.ext_blank {q r : Primitive} (hblank : q.blank = r.blank)
    (hhalves : ∀ kind, q.action.half? kind = r.action.half? kind) : q = r := by
  have haction : q.action = r.action :=
    Action.ext_blank (congrArg Primitive.action hblank) hhalves
  calc q = { q.blank with action := q.action } := rfl
    _ = { r.blank with action := r.action } := by rw [hblank, haction]
    _ = r := rfl

-- ============================================================== wirings

/-- The name of an operator and what it computes. -/
def Primitive.wiring (q : Primitive) : String × Action := (q.name, q.action)

/-- The name of the operator of a layer and what it computes. -/
def LayerAddress.wiring (entry : LayerAddress × Layer) : String × Action :=
  (entry.1.path, entry.1.action entry.2)

/-- The action passed its check. -/
def Primitive.Checked (q : Primitive) : Prop :=
  q.action.check q.name q.inShape q.outShape = .ok ()

/-- The operators are those of the layers, in order. -/
structure Wires (operators : List Primitive)
    (layers : List (LayerAddress × Layer)) : Prop where
  wiring : operators.map Primitive.wiring = layers.map LayerAddress.wiring
  checked : ∀ q ∈ operators, q.Checked

theorem Wires.nil : Wires [] [] := ⟨rfl, fun _ hq => absurd hq List.not_mem_nil⟩

/-- Operators and layers are matched one after another. -/
theorem Wires.append {first second : List Primitive}
    {early late : List (LayerAddress × Layer)} (hfirst : Wires first early)
    (hsecond : Wires second late) :
    Wires (first ++ second) (early ++ late) := by
  refine ⟨?_, ?_⟩
  · rw [List.map_append, List.map_append, hfirst.wiring, hsecond.wiring]
  · exact List.forall_mem_append.2 ⟨hfirst.checked, hsecond.checked⟩

/-- The operators are named by the layers, in order. -/
theorem Wires.names {operators : List Primitive}
    {layers : List (LayerAddress × Layer)} (h : Wires operators layers) :
    operators.map Primitive.name
      = (addresses layers).map LayerAddress.path := by
  have hwiring := congrArg (List.map Prod.fst) h.wiring
  rw [List.map_map, List.map_map] at hwiring
  rw [addresses, List.map_map]
  exact hwiring

section

variable {b b' : Bench} {name : String} {input output : TensorId}
  {handle : Handle} {address : LayerAddress} {layer : Layer}
  {stage repetition : Nat} {q : Primitive}

/-- One operator is matched with one layer. -/
theorem Wires.single (hwiring : q.wiring = LayerAddress.wiring (address, layer))
    (hchecked : q.Checked) :
    Wires [q] [(address, layer)] := by
  refine ⟨congrArg (fun w => [w]) hwiring, ?_⟩
  intro other hother
  rw [List.mem_singleton.1 hother]
  exact hchecked

/-- A convolution is matched with its layer. -/
theorem Binding.wires_convolve {kind : Layer → Action}
    (h : Binding.convolve name kind layer input handle b = .ok q b')
    (hname : name = address.path) (hkind : kind = address.action) :
    Wires [q] [(address, layer)] := by
  obtain ⟨image, outShape, -, -, -, -, hcheck, rfl, -⟩ :=
    Binding.convolve_eq_ok_iff.1 h
  exact Wires.single (by rw [hname, hkind]; rfl) hcheck

/-- A side branch is matched with its two layers. -/
theorem SideBranch.wires_setup {layers : SideLayers} {side : SideBranch}
    (h : SideBranch.setup name input layers handle b = .ok side b')
    (hname : name = s!"s{stage}r{repetition}" ++ ".branch1") :
    Wires side.primitives [(.block stage repetition .one 0, layers.depthwise),
      (.block stage repetition .one 1, layers.pointwise)] := by
  obtain ⟨after, hafter, -⟩ := Binding.balanced_eq_ok_iff.1 h
  simp only [Step.bind_eq_ok_iff, Step.pure_eq_ok_iff] at hafter
  obtain ⟨depthwise, b₁, hdepthwise, pointwise, b₂, hpointwise, rfl, -⟩ :=
    hafter
  subst hname
  exact (Binding.wires_convolve hdepthwise (LayerAddress.path_block rfl rfl)
    rfl).append
    (Binding.wires_convolve hpointwise (LayerAddress.path_block rfl rfl) rfl)

/-- A main branch is matched with its three. -/
theorem MainBranch.wires_setup {layers : MainLayers} {main : MainBranch}
    (h : MainBranch.setup name input layers handle b = .ok main b')
    (hname : name = s!"s{stage}r{repetition}" ++ ".branch2") :
    Wires main.primitives [(.block stage repetition .two 0, layers.reduce),
      (.block stage repetition .two 1, layers.depthwise),
      (.block stage repetition .two 2, layers.expand)] := by
  obtain ⟨after, hafter, -⟩ := Binding.balanced_eq_ok_iff.1 h
  simp only [Step.bind_eq_ok_iff, Step.pure_eq_ok_iff] at hafter
  obtain ⟨reduce, b₁, hreduce, depthwise, b₂, hdepthwise, expand, b₃, hexpand,
    rfl, -⟩ := hafter
  subst hname
  exact (Binding.wires_convolve hreduce (LayerAddress.path_block rfl rfl)
    rfl).append
    ((Binding.wires_convolve hdepthwise (LayerAddress.path_block rfl rfl)
      rfl).append
      (Binding.wires_convolve hexpand (LayerAddress.path_block rfl rfl) rfl))

/-- A block that was bound has a side branch exactly where its layers have
one. -/
theorem Block.wires_setupPath {layers : BlockLayers} {inShape : Shape}
    {path : BlockPath}
    (h : setupPath name input inShape layers handle b = .ok path b')
    (hname : name = s!"s{stage}r{repetition}") :
    Wires path.primitives (layers.addressed stage repetition) := by
  rw [BlockLayers.addressed]
  rcases setupPath_cases h with ⟨half, split, main, b₁, ⟨-, hside, -⟩, -, -,
    -, hmain, rfl⟩
    | ⟨sideLayers, side, main, b₁, -, hlayers, hside, hmain, rfl⟩
  · rw [hside]
    exact MainBranch.wires_setup hmain (by rw [hname]; rfl)
  · rw [hlayers]
    exact (SideBranch.wires_setup hside (by rw [hname]; rfl)).append
      (MainBranch.wires_setup hmain (by rw [hname]; rfl))

/-- A block is matched with the layers that it has. -/
theorem Block.wires_setup {layers : BlockLayers} {block : Block}
    (h : setup name input layers handle b = .ok block b')
    (hname : name = s!"s{stage}r{repetition}") :
    Wires block.primitives (layers.addressed stage repetition) := by
  obtain ⟨b₁, image, half, hbinds⟩ := exists_binds h
  exact wires_setupPath hbinds.path hname

/-- Blocks in a row are matched with theirs, numbered on. -/
theorem Stage.wires_setupBlocks {layers : List BlockLayers}
    {blocks : List Block}
    (h : setupBlocks name handle repetition input layers b = .ok blocks b')
    (hname : name = s!"s{stage}") :
    Wires (blocks.flatMap Block.primitives)
      (BlockLayers.addressedFrom stage repetition layers) := by
  induction layers generalizing repetition input blocks b b' with
  | nil =>
      simp only [setupBlocks, Step.pure_eq_ok_iff] at h
      obtain ⟨rfl, -⟩ := h
      exact .nil
  | cons first rest ih =>
      simp only [setupBlocks, Step.bind_eq_ok_iff, Step.pure_eq_ok_iff] at h
      obtain ⟨block, b₁, hblock, later, b₂, hlater, rfl, -⟩ := h
      rw [List.flatMap_cons, BlockLayers.addressedFrom]
      exact (Block.wires_setup hblock (by rw [hname]; rfl)).append (ih hlater)

/-- The operators of a bound stage are those of its listed layers. -/
theorem Stage.wires_setup {layers : StageLayers} {s : Stage}
    (h : setup stage input layers handle b = .ok s b') :
    Wires s.primitives (BlockLayers.addressedFrom stage 0 layers.blocks) := by
  obtain ⟨_, hrow, -⟩ := setup_row h
  exact wires_setupBlocks hrow rfl

end

end FireNet
