/-
Arenas seen through their tensors. A tensor is *sound* when its shape has
a size in words and that size is its length; a shape *fits* when a tensor
of zeros of it can be made, and then that tensor is sound.

An arena *covers* a layout when every tensor of the layout is there, of the
same shape and sound, whatever it holds. Covering is all that bound
operators ask of the arena they run on: it survives every pass, and it
says nothing about contents, so it also holds of an arena whose tensors
were overwritten in between.
-/
import FireNet.Graph.Arena
import FireNet.Proofs.Outcome

set_option autoImplicit false

namespace FireNet

-- ============================================================== tensors

/-- A tensor of this shape can be made: its size is a size, and a buffer of
that many values is not too large. -/
def Shape.Fits (s : Shape) : Prop :=
  s.height * s.width < Size.limit
    ∧ s.volume * Element.bytes Single ≤ Size.maxBytes

instance (s : Shape) : Decidable s.Fits := inferInstanceAs (Decidable (_ ∧ _))

/-- A shape that fits has a size in words, its volume. -/
theorem Shape.Fits.size?_eq {s : Shape} (h : s.Fits) :
    s.size? = some s.volume := by
  have hbytes : s.volume * 4 ≤ Size.maxBytes := h.2
  have hmax : Size.maxBytes < Size.limit := by decide
  exact Shape.size?_eq_some_iff.2 ⟨h.1, by omega, rfl⟩

namespace Tensor

/-- The tensor of zeros of a shape. -/
def blank (s : Shape) : Tensor Single :=
  ⟨s, Array.replicate s.volume Single.zero⟩

/-- The shape has a size, and it is the number of elements. -/
def Sound (t : Tensor Single) : Prop := t.shape.size? = some t.data.size

/-- A sound tensor holds as many values as its shape has elements. -/
theorem Sound.size_eq {t : Tensor Single} (h : t.Sound) :
    t.data.size = t.shape.volume :=
  (Shape.size?_eq_some_iff.1 h).2.2.symm

/-- The size of its shape can be computed. -/
theorem Sound.size?_eq {t : Tensor Single} (h : t.Sound) :
    t.shape.size? = some t.shape.volume := by
  rw [← h.size_eq]
  exact h

/-- Soundness is a matter of shape and length. -/
theorem Sound.of_size {t : Tensor Single} (h : t.Sound) (data : Array Single)
    (hsize : data.size = t.shape.volume) :
    (⟨t.shape, data⟩ : Tensor Single).Sound := by
  show t.shape.size? = some data.size
  rw [hsize, h.size?_eq]

theorem blank_sound {s : Shape} (h : s.Fits) : (blank s).Sound := by
  show s.size? = some (Array.replicate s.volume Single.zero).size
  rw [Array.size_replicate, h.size?_eq]

/-- Zeros are given exactly for a shape that fits. -/
theorem zeros?_eq_some_iff {s : Shape} {t : Tensor Single} :
    Tensor.zeros? s = some t ↔ s.Fits ∧ t = blank s := by
  simp only [Tensor.zeros?, FireNet.zeros?, Option.bind_eq_bind,
    Option.bind_eq_some_iff,
    Shape.size?_eq_some_iff, Option.ite_none_right_eq_some, Option.some.injEq]
  constructor
  · intro hall
    obtain ⟨_, ⟨hpos, -, rfl⟩, _, ⟨hle, rfl⟩, rfl⟩ := hall
    exact ⟨⟨hpos, hle⟩, rfl⟩
  · intro hall
    obtain ⟨hfits, rfl⟩ := hall
    obtain ⟨hpos, hvol, -⟩ := Shape.size?_eq_some_iff.1 hfits.size?_eq
    exact ⟨_, ⟨hpos, hvol, rfl⟩, _, ⟨hfits.2, rfl⟩, rfl⟩

end Tensor

namespace Arena

variable {a b : Arena} {id other : TensorId} {t u : Tensor Single} {s : Shape}

-- ============================================================== look-up

/-- Arenas with the same tensors are the same. -/
theorem ext_tensor? (h : ∀ id, a.tensor? id = b.tensor? id) : a = b := by
  cases a
  cases b
  congr 1
  exact Array.ext_getElem? fun i => h ⟨i⟩

theorem tensor?_eq_some_lt (h : a.tensor? id = some t) :
    id.index < a.tensors.size :=
  (Array.getElem?_eq_some_iff.1 h).1

theorem shape?_of_tensor? (h : a.tensor? id = some t) :
    a.shape? id = some t.shape := by
  rw [shape?, h]
  rfl

theorem shape?_eq_some_iff :
    a.shape? id = some s ↔ ∃ t, a.tensor? id = some t ∧ t.shape = s := by
  simp [shape?, Option.map_eq_some_iff]

theorem shape?_eq_some_lt (h : a.shape? id = some s) :
    id.index < a.tensors.size := by
  obtain ⟨t, ht, -⟩ := shape?_eq_some_iff.1 h
  exact tensor?_eq_some_lt ht

theorem exists_shape? (h : id.index < a.tensors.size) :
    ∃ s, a.shape? id = some s := by
  rw [shape?, tensor?, Array.getElem?_eq_getElem h]
  exact ⟨_, rfl⟩

theorem data?_of_tensor? (h : a.tensor? id = some t) :
    a.data? id = some t.data := by
  rw [data?, h]
  rfl

theorem tensor?_put_self (h : id.index < a.tensors.size) :
    (a.put id t).tensor? id = some t := by
  show (a.tensors.setIfInBounds id.index t)[id.index]? = _
  rw [Array.getElem?_setIfInBounds, if_pos rfl, if_pos h]

theorem tensor?_put_of_ne (h : other ≠ id) :
    (a.put id t).tensor? other = a.tensor? other := by
  have hne : id.index ≠ other.index := by
    intro hindex
    exact h (by cases id; cases other; cases hindex; rfl)
  show (a.tensors.setIfInBounds id.index t)[other.index]? = _
  rw [Array.getElem?_setIfInBounds, if_neg hne]
  rfl

/-- What a write leaves at any id. -/
theorem tensor?_put (h : id.index < a.tensors.size) :
    (a.put id t).tensor? other = if other = id then some t
      else a.tensor? other := by
  by_cases heq : other = id
  · rw [if_pos heq, heq, tensor?_put_self h]
  · rw [if_neg heq, tensor?_put_of_ne heq]

/-- What is put under an id is there if anything was. -/
theorem tensor?_put_eq_map :
    (a.put id t).tensor? id = (a.tensor? id).map fun _ => t := by
  show (a.tensors.setIfInBounds id.index t)[id.index]?
    = (a.tensors[id.index]?).map fun _ => t
  rw [Array.getElem?_setIfInBounds, if_pos rfl]
  by_cases h : id.index < a.tensors.size
  · rw [if_pos h, Array.getElem?_eq_getElem h, Option.map_some]
  · rw [if_neg h, Array.getElem?_eq_none (Nat.le_of_not_lt h), Option.map_none]

theorem put_put : (a.put id t).put id u = a.put id u := by
  refine ext_tensor? fun other => ?_
  by_cases h : other = id
  · rw [h, tensor?_put_eq_map, tensor?_put_eq_map, tensor?_put_eq_map,
      Option.map_map]
    rfl
  · rw [tensor?_put_of_ne h, tensor?_put_of_ne h, tensor?_put_of_ne h]

/-- Writes to two tensors can be exchanged. -/
theorem put_comm (h : id ≠ other) :
    (a.put id t).put other u = (a.put other u).put id t := by
  refine ext_tensor? fun third => ?_
  by_cases h₁ : third = id
  · subst h₁
    rw [tensor?_put_of_ne h, tensor?_put_eq_map, tensor?_put_eq_map,
      tensor?_put_of_ne h]
  · rw [tensor?_put_of_ne h₁]
    by_cases h₂ : third = other
    · subst h₂
      rw [tensor?_put_eq_map, tensor?_put_eq_map, tensor?_put_of_ne h₁]
    · rw [tensor?_put_of_ne h₂, tensor?_put_of_ne h₂, tensor?_put_of_ne h₁]

theorem data?_put_of_ne (h : other ≠ id) :
    (a.put id t).data? other = a.data? other := by
  rw [data?, data?, tensor?_put_of_ne h]

@[simp] theorem size_put : (a.put id t).tensors.size = a.tensors.size :=
  Array.size_setIfInBounds

-- =============================================================== growth

/-- The arena with tensors of zeros of these shapes added. -/
def grow (a : Arena) (shapes : List Shape) : Arena :=
  ⟨a.tensors ++ (shapes.map Tensor.blank).toArray⟩

@[simp] theorem grow_nil : a.grow [] = a := by simp [grow]

/-- Growing twice is growing by both lists. -/
theorem grow_grow (xs ys : List Shape) :
    (a.grow xs).grow ys = a.grow (xs ++ ys) := by
  simp [grow, Array.append_assoc]

@[simp] theorem size_grow (xs : List Shape) :
    (a.grow xs).tensors.size = a.tensors.size + xs.length := by
  simp [grow]

/-- Some tensors of zeros were added, and nothing else. -/
def Grows (a b : Arena) : Prop :=
  ∃ shapes, (∀ s ∈ shapes, s.Fits) ∧ b = a.grow shapes

theorem Grows.refl : a.Grows a :=
  ⟨[], fun _ h => absurd h List.not_mem_nil, grow_nil.symm⟩

theorem Grows.trans {c : Arena} (h₁ : a.Grows b) (h₂ : b.Grows c) :
    a.Grows c := by
  obtain ⟨xs, hxs, rfl⟩ := h₁
  obtain ⟨ys, hys, rfl⟩ := h₂
  refine ⟨xs ++ ys, fun s hs => ?_, grow_grow xs ys⟩
  rcases List.mem_append.1 hs with h | h
  · exact hxs s h
  · exact hys s h

/-- An arena grows by a tensor that fits. -/
theorem grows_one (h : s.Fits) : a.Grows (a.grow [s]) := by
  refine ⟨[s], fun t ht => ?_, rfl⟩
  rw [List.mem_singleton.1 ht]
  exact h

/-- Growing leaves the tensors that were there. -/
theorem tensor?_grow_of_lt {xs : List Shape} (h : id.index < a.tensors.size) :
    (a.grow xs).tensor? id = a.tensor? id :=
  Array.getElem?_append_left h

theorem shape?_grow_of_some {xs : List Shape} (h : a.shape? id = some s) :
    (a.grow xs).shape? id = some s := by
  rw [shape?, tensor?_grow_of_lt (shape?_eq_some_lt h)]
  exact h

/-- The shapes of several tensors stay when the arena grows. -/
theorem map_shape?_grow {α : Type} {l : List α} {f : α → TensorId}
    {xs shapes : List Shape}
    (h : l.map (fun x => a.shape? (f x)) = shapes.map some) :
    l.map (fun x => (a.grow xs).shape? (f x)) = shapes.map some := by
  rw [← h]
  refine List.map_congr_left fun x hx => ?_
  have hmem : a.shape? (f x) ∈ shapes.map some := by
    rw [← h]
    exact List.mem_map_of_mem hx
  obtain ⟨s, -, hs⟩ := List.mem_map.1 hmem
  rw [← hs, shape?_grow_of_some hs.symm]

/-- A tensor keeps its shape while the arena grows. -/
theorem Grows.shape? (h : a.Grows b) (hs : a.shape? id = some s) :
    b.shape? id = some s := by
  obtain ⟨xs, -, rfl⟩ := h
  exact shape?_grow_of_some hs

/-- What is there stays, with all it holds. -/
theorem Grows.tensor? (h : a.Grows b) (ht : a.tensor? id = some t) :
    b.tensor? id = some t := by
  obtain ⟨xs, -, rfl⟩ := h
  rw [tensor?_grow_of_lt (tensor?_eq_some_lt ht)]
  exact ht

theorem Grows.size_le (h : a.Grows b) : a.tensors.size ≤ b.tensors.size := by
  obtain ⟨xs, -, rfl⟩ := h
  rw [size_grow]
  exact Nat.le_add_right _ _

/-- The tensors added are numbered on from the old ones. -/
theorem tensor?_grow_added {xs : List Shape} {i : Nat} :
    (a.grow xs).tensor? ⟨a.tensors.size + i⟩ = (xs[i]?).map Tensor.blank := by
  show (a.tensors ++ (xs.map Tensor.blank).toArray)[a.tensors.size + i]? = _
  rw [Array.getElem?_append_right (Nat.le_add_right _ _),
    Nat.add_sub_cancel_left]
  simp

/-- The new tensors lie behind the old ones, in the order of their shapes. -/
theorem shape?_grow_added {xs : List Shape} {i : Nat} :
    (a.grow xs).shape? ⟨a.tensors.size + i⟩ = xs[i]? := by
  rw [shape?, tensor?_grow_added, Option.map_map]
  cases xs[i]? with
  | none => rfl
  | some s => rfl

/-- A new tensor stands at the end. -/
theorem alloc_eq_ok_iff {b : Arena} :
    alloc s a = .ok id b ↔ s.Fits ∧ id = ⟨a.tensors.size⟩ ∧ b = a.grow [s] := by
  simp only [alloc, Step.bind_eq_ok_iff, Step.ofOption_eq_ok_iff,
    Tensor.zeros?_eq_some_iff]
  constructor
  · intro hall
    obtain ⟨_, _, ⟨⟨hfits, rfl⟩, rfl⟩, heq⟩ := hall
    cases heq
    exact ⟨hfits, rfl, by simp [grow]⟩
  · intro hall
    obtain ⟨hfits, rfl, rfl⟩ := hall
    refine ⟨_, _, ⟨⟨hfits, rfl⟩, rfl⟩, ?_⟩
    show EStateM.Result.ok _ _ = _
    simp [grow]

/-- An allocation fails only by a fault, and then it adds nothing. -/
theorem alloc_eq_error {e : Failure} (h : alloc s a = .error e b) :
    e = .fault ∧ b = a := by
  unfold alloc at h
  cases hzeros : (Tensor.zeros? s : Option (Tensor Single)) with
  | none =>
      rw [hzeros] at h
      cases h
      exact ⟨rfl, rfl⟩
  | some t =>
      rw [hzeros] at h
      cases h

-- ============================================================= coverage

/-- Every tensor of a layout is there, of its shape and sound. -/
def Covers (a layout : Arena) : Prop :=
  ∀ id s, layout.shape? id = some s →
    ∃ t, a.tensor? id = some t ∧ t.shape = s ∧ t.Sound

variable {layout : Arena} {lo mid hi : Nat}

/-- An arena that was only grown covers itself. -/
theorem covers_of_grows_empty (h : empty.Grows a) : a.Covers a := by
  obtain ⟨shapes, hfits, rfl⟩ := h
  intro id s hs
  have hid : id = ⟨empty.tensors.size + id.index⟩ := by
    rw [show empty.tensors.size = 0 from rfl, Nat.zero_add]
  rw [hid, shape?_grow_added] at hs
  rw [hid, tensor?_grow_added, hs]
  exact ⟨Tensor.blank s, rfl, rfl,
    Tensor.blank_sound (hfits s (List.mem_of_getElem? hs))⟩

/-- What is found under an id of the layout has the shape there and is
sound. -/
theorem Covers.found (h : a.Covers layout) (hs : layout.shape? id = some s)
    (ht : a.tensor? id = some t) : t.shape = s ∧ t.Sound := by
  obtain ⟨u, hu, hshape, hsound⟩ := h id s hs
  obtain rfl := Option.some.inj (ht.symm.trans hu)
  exact ⟨hshape, hsound⟩

/-- An arena covers the first part of what it covers. -/
theorem Covers.of_grows (h : a.Covers b) (hg : layout.Grows b) :
    a.Covers layout :=
  fun id s hs => h id s (hg.shape? hs)

/-- It still does when it grows. -/
theorem Covers.grows (h : a.Covers layout) (hg : a.Grows b) :
    b.Covers layout := by
  intro id s hs
  obtain ⟨t, ht, hshape, hsound⟩ := h id s hs
  exact ⟨t, hg.tensor? ht, hshape, hsound⟩

/-- All tensors are the same, except perhaps those numbered from `lo` up to
`hi`. -/
def Rewrites (a b : Arena) (lo hi : Nat) : Prop :=
  ∀ id : TensorId, id.index < lo ∨ hi ≤ id.index → b.tensor? id = a.tensor? id

theorem Rewrites.refl : a.Rewrites a lo hi := fun _ _ => rfl

theorem Rewrites.widen {lo' hi' : Nat} (h : a.Rewrites b lo hi) (hlo : lo' ≤ lo)
    (hhi : hi ≤ hi') : a.Rewrites b lo' hi' :=
  fun id hid => h id (by omega)

/-- Two steps rewrite no more than the range of both. -/
theorem Rewrites.trans {c : Arena} (h₁ : a.Rewrites b lo hi)
    (h₂ : b.Rewrites c lo hi) :
    a.Rewrites c lo hi :=
  fun id hid => (h₂ id hid).trans (h₁ id hid)

/-- A write rewrites the one place that it names. -/
theorem rewrites_put : a.Rewrites (a.put id t) id.index (id.index + 1) := by
  intro other hother
  apply tensor?_put_of_ne
  intro heq
  obtain rfl := heq
  omega

/-- What a layout numbers below `lo` or from `hi` on is still covered after
the others were rewritten. -/
theorem Covers.of_rewrites (h : a.Covers layout) (hr : a.Rewrites b lo hi)
    (hin : ∀ id s, layout.shape? id = some s → lo ≤ id.index → id.index < hi →
      ∃ t, b.tensor? id = some t ∧ t.shape = s ∧ t.Sound) :
    b.Covers layout := by
  intro id s hs
  by_cases hid : lo ≤ id.index ∧ id.index < hi
  · exact hin id s hs hid.1 hid.2
  · rw [hr id (by omega)]
    exact h id s hs

/-- An arena that covers more still does after the covered part alone was
rewritten. -/
theorem Covers.of_rewrites_grows {layout' : Arena} (h : a.Covers layout')
    (hg : layout.Grows layout') (hhi : hi ≤ layout.tensors.size)
    (hb : b.Covers layout) (hr : a.Rewrites b lo hi) : b.Covers layout' := by
  refine h.of_rewrites hr fun id s hs _ hlt => ?_
  obtain ⟨xs, -, rfl⟩ := hg
  rw [shape?, tensor?_grow_of_lt (Nat.lt_of_lt_of_le hlt hhi)] at hs
  exact hb id s hs

/-- Putting a sound tensor of the same shape keeps coverage. -/
theorem Covers.put (h : a.Covers layout) (hs : layout.shape? id = some t.shape)
    (ht : t.Sound) : (a.put id t).Covers layout := by
  obtain ⟨old, hold, -⟩ := h id _ hs
  intro other s hother
  rw [tensor?_put (tensor?_eq_some_lt hold)]
  by_cases heq : other = id
  · subst heq
    rw [hs] at hother
    cases hother
    exact ⟨t, if_pos rfl, rfl, ht⟩
  · rw [if_neg heq]
    exact h other s hother

-- ============================================================= likeness

/-- The same tensors up to their contents: as many, of the same shapes and
lengths. -/
def Alike (a b : Arena) : Prop :=
  ∀ id, (a.tensor? id).map (fun t => (t.shape, t.data.size))
    = (b.tensor? id).map fun t => (t.shape, t.data.size)

theorem Alike.trans {c : Arena} (h₁ : a.Alike b) (h₂ : b.Alike c) : a.Alike c :=
  fun id => (h₁ id).trans (h₂ id)

/-- A tensor of the one is in the other, and as sound. -/
theorem Alike.exists_tensor? (h : a.Alike b) (ht : a.tensor? id = some t) :
    ∃ u, b.tensor? id = some u ∧ u.shape = t.shape ∧ (t.Sound → u.Sound) := by
  have hid := h id
  rw [ht, Option.map_some] at hid
  obtain ⟨u, hu, heq⟩ := Option.map_eq_some_iff.1 hid.symm
  obtain ⟨hshape, hsize⟩ := Prod.mk.inj heq
  refine ⟨u, hu, hshape, fun hsound => ?_⟩
  show u.shape.size? = some u.data.size
  rw [hshape, hsize]
  exact hsound

/-- Two arenas are alike both ways. -/
theorem Alike.symm (h : a.Alike b) : b.Alike a := fun id => (h id).symm

/-- Arenas that are alike have the same shapes. -/
theorem Alike.shape? (h : a.Alike b) (hs : a.shape? id = some s) :
    b.shape? id = some s := by
  obtain ⟨t, ht, rfl⟩ := shape?_eq_some_iff.1 hs
  obtain ⟨u, hu, hshape, -⟩ := h.exists_tensor? ht
  exact shape?_eq_some_iff.2 ⟨u, hu, hshape⟩

/-- Coverage looks at shapes and lengths only. -/
theorem Covers.of_alike (h : a.Covers layout) (hb : a.Alike b) :
    b.Covers layout := by
  intro id s hs
  obtain ⟨t, ht, hshape, hsound⟩ := h id s hs
  obtain ⟨u, hu, hushape, husound⟩ := hb.exists_tensor? ht
  exact ⟨u, hu, hushape.trans hshape, husound hsound⟩

/-- Putting a tensor of the same shape and length. -/
theorem alike_put (ht : a.tensor? id = some t) (hshape : u.shape = t.shape)
    (hsize : u.data.size = t.data.size) : a.Alike (a.put id u) := by
  intro other
  rw [tensor?_put (tensor?_eq_some_lt ht)]
  by_cases hid : other = id
  · rw [if_pos hid, hid, ht, Option.map_some, Option.map_some, hshape, hsize]
  · rw [if_neg hid]

/-- Covered tensors rewritten to covered tensors are of the same shape and
length, since the shape decides the length. -/
theorem alike_of_rewrites (ha : a.Covers layout) (hb : b.Covers layout)
    (hhi : hi ≤ layout.tensors.size) (hr : a.Rewrites b lo hi) : a.Alike b := by
  intro id
  by_cases hid : id.index < hi
  · have hlt : id.index < layout.tensors.size := Nat.lt_of_lt_of_le hid hhi
    have hlayout : layout.shape? id = some layout.tensors[id.index].shape :=
      shape?_of_tensor? (Array.getElem?_eq_getElem hlt)
    obtain ⟨t, ht, htshape, hts⟩ := ha id _ hlayout
    obtain ⟨u, hu, hushape, hus⟩ := hb id _ hlayout
    rw [ht, hu, Option.map_some, Option.map_some, hts.size_eq, hus.size_eq,
      htshape, hushape]
  · rw [hr id (Or.inr (by omega))]

-- ============================================================ soundness

/-- Every tensor has the length that its shape says. -/
def Sound (a : Arena) : Prop := ∀ id t, a.tensor? id = some t → t.Sound

theorem empty_sound : empty.Sound := fun _ _ h => by cases tensor?_eq_some_lt h

/-- A sound arena covers itself. -/
theorem Sound.covers (h : a.Sound) : a.Covers a := by
  intro id s hs
  obtain ⟨t, ht, hshape⟩ := shape?_eq_some_iff.1 hs
  exact ⟨t, ht, hshape, h id t ht⟩

/-- What is allocated is sound. -/
theorem Sound.grows (h : a.Sound) (hg : a.Grows b) : b.Sound := by
  obtain ⟨shapes, hfits, rfl⟩ := hg
  intro id t ht
  by_cases hid : id.index < a.tensors.size
  · rw [tensor?_grow_of_lt hid] at ht
    exact h id t ht
  · have hindex : id = ⟨a.tensors.size + (id.index - a.tensors.size)⟩ := by
      cases id
      simp only [TensorId.mk.injEq] at hid ⊢
      omega
    rw [hindex, tensor?_grow_added] at ht
    obtain ⟨s, hs, rfl⟩ := Option.map_eq_some_iff.1 ht
    exact Tensor.blank_sound (hfits s (List.mem_of_getElem? hs))

/-- So is what is of the same shapes and lengths. -/
theorem Sound.of_alike (h : a.Sound) (hb : a.Alike b) : b.Sound := by
  intro id u hu
  obtain ⟨t, ht, -, hsound⟩ := hb.symm.exists_tensor? hu
  obtain ⟨u', hu', -, hsound'⟩ := hb.exists_tensor? ht
  rw [hu] at hu'
  cases hu'
  exact hsound' (h id t ht)

/-- Putting a sound tensor of the same shape. -/
theorem alike_put_sound (ht : a.tensor? id = some t) (hts : t.Sound)
    (hus : u.Sound) (hshape : u.shape = t.shape) : a.Alike (a.put id u) :=
  alike_put ht hshape (by rw [hus.size_eq, hts.size_eq, hshape])

-- ============================================================ operations

/-- Writing values of the right number overwrites them. -/
theorem write_eq_ok {data : Array Single} (ht : a.tensor? id = some t)
    (hsize : data.size = t.data.size) :
    write id data a = .ok () (a.put id ⟨t.shape, data⟩) := by
  simp only [write, Step.bind_eq_ok_iff]
  refine ⟨a, a, Step.get_eq_ok_iff.2 ⟨rfl, rfl⟩, t, a,
    Step.ofOption_eq_ok_iff.2 ⟨ht, rfl⟩, ?_⟩
  rw [if_pos hsize]
  rfl

/-- A bound tensor passes its check for as long as it is covered. -/
theorem checkBound_eq_ok {op : String} (ht : a.tensor? id = some t)
    (hs : t.Sound) :
    checkBound op id t.shape a = .ok () a := by
  have hdata := data?_of_tensor? ht
  simp only [checkBound, Step.bind_eq_ok_iff, Step.get_eq_ok_iff]
  refine ⟨a, a, ⟨rfl, rfl⟩, t.data, a, Step.ofOption_eq_ok_iff.2 ⟨hdata, rfl⟩,
    t.data.size, a, Step.ofOption_eq_ok_iff.2 ⟨hs, rfl⟩, ?_⟩
  rw [if_neg (by simp)]
  rfl

/-- The check looks at the length alone. -/
theorem checkBound_eq_ok_iff {op : String} {bound : Shape} {v : Unit} :
    checkBound op id bound a = .ok v b ↔
      (∃ t, a.tensor? id = some t ∧ bound.size? = some t.data.size)
        ∧ a = b := by
  simp only [checkBound, Step.bind_eq_ok_iff, Step.get_eq_ok_iff,
    Step.ofOption_eq_ok_iff, data?, Option.map_eq_some_iff]
  constructor
  · rintro ⟨_, _, ⟨rfl, rfl⟩, _, _, ⟨⟨t, ht, rfl⟩, rfl⟩, size, _,
      ⟨hsize, rfl⟩, h⟩
    rw [Step.lastGuard_eq_ok_iff, Decidable.not_not] at h
    obtain ⟨rfl, rfl⟩ := h
    exact ⟨⟨t, ht, hsize⟩, rfl⟩
  · rintro ⟨⟨t, ht, hsize⟩, rfl⟩
    exact ⟨a, a, ⟨rfl, rfl⟩, t.data, a, ⟨⟨t, ht, rfl⟩, rfl⟩, _, a, ⟨hsize, rfl⟩,
      Step.lastGuard_eq_ok_iff.2 ⟨fun h => h rfl, rfl⟩⟩

variable {β : Type} {first second : TensorId}

/-- What is computed while the output is out of the arena is put back in its
place. -/
theorem withOutput_eq_ok
    (fill : Arena → Array Single → Option (β × Array Single)) (r : β)
    (data : Array Single) (ht : a.tensor? id = some t)
    (hfill : fill (a.put id Tensor.empty) t.data = some (r, data)) :
    withOutput id fill a = .ok r (a.put id ⟨t.shape, data⟩) := by
  have hlt := tensor?_eq_some_lt ht
  simp only [withOutput, ht, hfill]
  refine congrArg (EStateM.Result.ok r) (ext_tensor? fun other => ?_)
  rw [tensor?_put (by rw [size_put]; exact hlt), tensor?_put hlt,
    tensor?_put hlt]
  by_cases hid : other = id
  · rw [if_pos hid, if_pos hid]
  · rw [if_neg hid, if_neg hid, if_neg hid]

/-- What is computed faults while the output is out of the arena. -/
theorem withOutput_eq_fault
    (fill : Arena → Array Single → Option (β × Array Single))
    (ht : a.tensor? id = some t)
    (hfill : fill (a.put id Tensor.empty) t.data = none) :
    withOutput id fill a = .error .fault (a.put id Tensor.empty) := by
  simp only [withOutput, ht, hfill]

/-- What a step with a detached output did: it ran its filler on the arena
without that output, and put back what came of it. -/
theorem withOutput_eq_ok_iff
    {fill : Arena → Array Single → Option (β × Array Single)} {r : β} :
    withOutput id fill a = .ok r b ↔
      ∃ t data, a.tensor? id = some t
        ∧ fill (a.put id Tensor.empty) t.data = some (r, data)
        ∧ b = a.put id ⟨t.shape, data⟩ := by
  constructor
  · intro h
    cases ht : a.tensor? id with
    | none =>
        simp only [withOutput, ht] at h
        cases h
    | some t =>
        cases hfill : fill (a.put id Tensor.empty) t.data with
        | none =>
            rw [withOutput_eq_fault fill ht hfill] at h
            cases h
        | some result =>
            rw [withOutput_eq_ok fill result.1 result.2 ht hfill] at h
            cases h
            exact ⟨t, result.2, rfl, hfill, rfl⟩
  · rintro ⟨t, data, ht, hfill, rfl⟩
    exact withOutput_eq_ok fill r data ht hfill

/-- The same for two outputs. -/
theorem withOutputs_eq_ok
    (fill : Arena → Array Single → Array Single →
      Option (β × Array Single × Array Single))
    (r : β) (x y : Array Single) (hne : first ≠ second)
    (ht : a.tensor? first = some t) (hu : a.tensor? second = some u)
    (hfill : fill ((a.put first Tensor.empty).put second Tensor.empty) t.data
      u.data = some (r, x, y)) :
    withOutputs first second fill a
      = .ok r ((a.put first ⟨t.shape, x⟩).put second ⟨u.shape, y⟩) := by
  have hfirst := tensor?_eq_some_lt ht
  have hsecond := tensor?_eq_some_lt hu
  have hu' : (a.put first Tensor.empty).tensor? second = some u :=
    (tensor?_put_of_ne (Ne.symm hne)).trans hu
  simp only [withOutputs, if_neg hne, ht, hu', hfill]
  refine congrArg (EStateM.Result.ok r) (ext_tensor? fun other => ?_)
  simp only [tensor?_put, size_put, hfirst, hsecond]
  by_cases h₁ : other = second
  · rw [if_pos h₁, if_pos h₁]
  · by_cases h₂ : other = first
    · rw [if_neg h₁, if_pos h₂, if_neg h₁, if_pos h₂]
    · rw [if_neg h₁, if_neg h₂, if_neg h₁, if_neg h₂, if_neg h₁, if_neg h₂]

theorem withOutputs_eq_ok_iff
    {fill : Arena → Array Single → Array Single →
      Option (β × Array Single × Array Single)}
    {r : β} :
    withOutputs first second fill a = .ok r b ↔
      first ≠ second ∧ ∃ t u x y,
        a.tensor? first = some t ∧ a.tensor? second = some u
        ∧ fill ((a.put first Tensor.empty).put second Tensor.empty)
          t.data u.data
          = some (r, x, y)
        ∧ b = (a.put first ⟨t.shape, x⟩).put second ⟨u.shape, y⟩ := by
  constructor
  · intro h
    by_cases hsame : first = second
    · simp only [withOutputs, if_pos hsame] at h
      cases h
    refine ⟨hsame, ?_⟩
    cases ht : a.tensor? first with
    | none =>
        simp only [withOutputs, if_neg hsame, ht] at h
        cases h
    | some t =>
        -- the second is looked up after the first was taken out
        have hother : (a.put first Tensor.empty).tensor? second
            = a.tensor? second :=
          tensor?_put_of_ne (Ne.symm hsame)
        cases hu : a.tensor? second with
        | none =>
            simp only [withOutputs, if_neg hsame, ht, hother, hu] at h
            cases h
        | some u =>
            cases hfill : fill
              ((a.put first Tensor.empty).put second Tensor.empty) t.data
                u.data with
            | none =>
                simp only [withOutputs, if_neg hsame, ht, hother,
                  hu, hfill] at h
                cases h
            | some result =>
                obtain ⟨r', x, y⟩ := result
                rw [withOutputs_eq_ok fill r' x y hsame ht hu hfill] at h
                cases h
                exact ⟨t, u, x, y, rfl, rfl, hfill, rfl⟩
  · rintro ⟨hsame, t, u, x, y, ht, hu, hfill, rfl⟩
    exact withOutputs_eq_ok fill r x y hsame ht hu hfill

end Arena

end FireNet
