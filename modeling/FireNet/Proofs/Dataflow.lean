/-
The network as a pure function. Every operator takes a tensor and gives a
new one: an action computes over fresh zeros, a block joins the results of
its two paths, a network composes them all. There is no arena here, no
binding and no reuse of buffers; what the bound network computes is
compared with this.

The backend is a parameter throughout: it decides how inner products are
rounded, and a bound operator has it from its handle.
-/
import FireNet.Model.Network
import FireNet.Proofs.Arena

set_option autoImplicit false

namespace FireNet

-- ============================================================== actions

/-- The shape of the places of a window over an image. -/
def Window.shape? (w : Window) (channels : Nat) (image : Shape) :
    Option Shape := do
  match ← w.output? image.height image.width with
  | some (height, width) => some ⟨height, width, channels⟩
  | none => none

namespace Action

/-- The shape of the result over an image. -/
def outShape? (image : Shape) : Action → Option Shape
  | convolution layer => layer.window.shape? layer.outputs image
  | depthwise layer => layer.window.shape? layer.outputs image
  | maxPool w => w.shape? image.channels image
  | meanPool => some ⟨1, 1, image.channels⟩
  | fullyConnected layer => some ⟨1, 1, layer.outputs⟩

/-- The result of an action in a given shape, computed over zeros. -/
def over? (a : Action) (backend : Backend) (outShape : Shape)
    (x : Tensor Single) : Option (Tensor Single) := do
  let data ←
    a.compute? backend x.data x.shape outShape (Tensor.blank outShape).data
  some ⟨outShape, data⟩

/-- The result of an action on a backend. -/
def run? (a : Action) (backend : Backend) (x : Tensor Single) :
    Option (Tensor Single) := do
  a.over? backend (← a.outShape? x.shape) x

end Action

-- ============================================================= channels

namespace Tensor

/-- Half of the channels of every pixel, from channel `start` on. -/
def channelHalf (x : Tensor Single) (start : Nat) : Tensor Single :=
  let half := x.shape.channels / 2
  ⟨x.shape.withChannels half,
    (Array.range (x.shape.withChannels half).volume).map fun i =>
      x.data.getD (i / half * (2 * half) + (start + i % half)) Single.zero⟩

/-- The first half of the channels of every pixel. -/
def firstHalf (x : Tensor Single) : Tensor Single := x.channelHalf 0

/-- The second half of the channels of every pixel. -/
def secondHalf (x : Tensor Single) : Tensor Single :=
  x.channelHalf (x.shape.channels / 2)

/-- Two tensors merged element by element: the even elements are those of
the first, the odd ones those of the second. -/
def weave (x y : Tensor Single) : Tensor Single :=
  ⟨x.shape.withChannels (x.shape.channels + y.shape.channels),
    (Array.range (x.data.size + y.data.size)).map fun i =>
      if i % 2 = 0 then x.data.getD (i / 2) Single.zero
        else y.data.getD (i / 2) Single.zero⟩

end Tensor

-- =============================================================== layers

section

variable (backend : Backend)

/-- Depthwise, then pointwise. -/
def SideLayers.run? (s : SideLayers) (x : Tensor Single) :
    Option (Tensor Single) := do
  let filtered ← (Action.depthwise s.depthwise).run? backend x
  (Action.convolution s.pointwise).run? backend filtered

/-- Pointwise, depthwise, pointwise. -/
def MainLayers.run? (m : MainLayers) (x : Tensor Single) :
    Option (Tensor Single) := do
  let reduced ← (Action.convolution m.reduce).run? backend x
  let filtered ← (Action.depthwise m.depthwise).run? backend reduced
  (Action.convolution m.expand).run? backend filtered

/-- The two tensors that a block merges: both branches over the input, or the
first half of its channels beside the main branch over the second half. -/
def BlockLayers.paths? (b : BlockLayers) (x : Tensor Single) :
    Option (Tensor Single × Tensor Single) :=
  match b.side with
  | some side => do
    let first ← side.run? backend x
    let second ← b.main.run? backend x
    some (first, second)
  | none => do
    let second ← b.main.run? backend x.secondHalf
    some (x.firstHalf, second)

/-- With a side branch, both branches take the whole input. -/
theorem BlockLayers.paths?_of_some {b : BlockLayers} {side : SideLayers}
    (h : b.side = some side) :
    b.paths? backend = fun x => (do
      let first ← side.run? backend x
      let second ← b.main.run? backend x
      some (first, second) : Option (Tensor Single × Tensor Single)) := by
  funext x
  rw [paths?, h]

/-- Without one, the first half passes and the main branch takes the
second. -/
theorem BlockLayers.paths?_of_none {b : BlockLayers} (h : b.side = none) :
    b.paths? backend = fun x => (do
      let second ← b.main.run? backend x.secondHalf
      some (x.firstHalf, second) : Option (Tensor Single × Tensor Single)) := by
  funext x
  rw [paths?, h]

/-- The merger of the two paths. -/
def BlockLayers.run? (b : BlockLayers) (x : Tensor Single) :
    Option (Tensor Single) := do
  let (first, second) ← b.paths? backend x
  some (first.weave second)

/-- Block after block. -/
def StageLayers.run? (s : StageLayers) (x : Tensor Single) :
    Option (Tensor Single) :=
  s.blocks.foldlM (fun x b => b.run? backend x) x

/-- Stem, pool, stage after stage, head, mean and classifier. -/
def Parameters.run? (p : Parameters) (frame : Tensor Single) :
    Option (Tensor Single) := do
  let x ← (Action.convolution p.stem).run? backend frame
  let x ← (Action.maxPool Network.poolWindow).run? backend x
  let x ← p.stages.foldlM (fun x s => s.run? backend x) x
  let x ← (Action.convolution p.head).run? backend x
  let x ← Action.meanPool.run? backend x
  (Action.fullyConnected p.classifier).run? backend x

/-- The score of a frame: the first value of the result. -/
def Parameters.score? (p : Parameters) (frame : Tensor Single) :
    Option Single := do
  let result ← p.run? backend frame
  result.data[0]?

end

end FireNet
