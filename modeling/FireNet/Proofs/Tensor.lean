/-
Tensors under edits. Whoever holds a tensor puts another one in its place,
resizes it or writes single elements. Any of these can fault, and the
holder goes on with what the fault left.

A tensor is whole when it is as long as its shape says. Zeros and given
elements are measured before they take the place of the old tensor, so a
fault leaves it as it was. Resizing announces the new shape and drops the
elements before it knows: where no tensor of that shape can be made, the
shape stays, without elements, and no later write mends it. This is the
one way to lose wholeness (`Torn`), and the next edit that reshapes the
tensor ends it.
-/
import FireNet.Proofs.Outcome
import FireNet.Tensor.Basic
import Mathlib.Data.List.Induction

set_option autoImplicit false

namespace FireNet

variable {α : Type} [Element α] {s : Shape}

/-- A tensor of this shape can be made: its size is a size, and a buffer of
that many elements is not too large. -/
def Shape.Storable (α : Type) [Element α] (s : Shape) : Prop :=
  s.size? = some s.volume ∧ s.volume * Element.bytes α ≤ Size.maxBytes

instance (s : Shape) : Decidable (s.Storable α) :=
  inferInstanceAs (Decidable (_ ∧ _))

namespace Tensor

variable {t t' : Tensor α} {outcome : Outcome Unit}

/-- As many elements as the shape says. -/
def Whole (t : Tensor α) : Prop := t.data.size = t.shape.volume

/-- The zeros of a shape. -/
def zerosOf (s : Shape) : Tensor α := ⟨s, Array.replicate s.volume Element.zero⟩

theorem zerosOf_whole : (zerosOf s : Tensor α).Whole := Array.size_replicate

/-- Zeros are given for a shape that can be stored. -/
theorem zeros?_of_storable (h : s.Storable α) :
    Tensor.zeros? s = some (zerosOf s : Tensor α) := by
  unfold Tensor.zeros? FireNet.zeros?
  rw [h.1, Option.bind_eq_bind, Option.bind_some, if_pos h.2]
  rfl

/-- And for no other. -/
theorem zeros?_of_not_storable (h : ¬s.Storable α) :
    (Tensor.zeros? s : Option (Tensor α)) = none := by
  unfold Tensor.zeros? FireNet.zeros?
  cases hsize : s.size? with
  | none => rfl
  | some n =>
      obtain ⟨-, -, rfl⟩ := Shape.size?_eq_some_iff.1 hsize
      rw [Option.bind_eq_bind, Option.bind_some,
        if_neg fun hle => h ⟨hsize, hle⟩]
      rfl

-- =========================================================== operations

/-- A resize to such a shape leaves zeros of it. -/
theorem resize_of_storable (t : Tensor α) (h : s.Storable α) :
    (resize s).runFrom t = (.ok (), zerosOf s) := by
  apply Step.runFrom_eq_ok_iff.2
  rw [resize, Step.set_bind, h.1, Step.some_bind, FireNet.zeros?, if_pos h.2,
    Step.some_bind]
  rfl

/-- A resize that faults has announced its shape. -/
theorem resize_of_not_storable (t : Tensor α) (h : ¬s.Storable α) :
    (resize s).runFrom t = (.error .fault, ⟨s, #[]⟩) := by
  apply Step.runFrom_eq_error_iff.2
  rw [resize, Step.set_bind]
  cases hsize : s.size? with
  | none => rw [Step.none_bind]
  | some n =>
      obtain ⟨-, -, rfl⟩ := Shape.size?_eq_some_iff.1 hsize
      rw [Step.some_bind, FireNet.zeros?, if_neg fun hle => h ⟨hsize, hle⟩,
        Step.none_bind]

variable {offset : Nat} (value : α)

omit [Element α] in

/-- A write in range replaces one value. -/
theorem write_of_lt (h : offset < t.data.size) :
    (write offset value).runFrom t
      = (.ok (), { t with data := t.data.setIfInBounds offset value }) := by
  apply Step.runFrom_eq_ok_iff.2
  rw [write, Step.get_bind, if_pos h]
  rfl

omit [Element α] in

/-- One out of range is a fault, and leaves the tensor. -/
theorem write_of_le (h : t.data.size ≤ offset) :
    (write offset value).runFrom t = (.error .fault, t) := by
  apply Step.runFrom_eq_error_iff.2
  rw [write, Step.get_bind, if_neg (Nat.not_lt.2 h)]
  rfl

-- ================================================================ edits

/-- What is done to a tensor that someone holds. -/
inductive Edit (α : Type) where
  /-- Zeros of a shape take its place. -/
  | zeros (shape : Shape)
  /-- Given elements take its place, if they are as many as the shape has. -/
  | ofArray (shape : Shape) (data : Array α)
  | resize (shape : Shape)
  | write (offset : Nat) (value : α)

namespace Edit

/-- What an edit does to a tensor, and whether it faults. -/
def step : Edit α → Step (Tensor α) Unit
  | .zeros shape => do
    let t : Tensor α ← Step.ofOption (Tensor.zeros? shape)
    set t
  | .ofArray shape data => do
    match ← Step.ofOption (ofArray? shape data) with
    | some t => set t
    | none => pure ()
  | .resize shape => Tensor.resize shape
  | .write offset value => Tensor.write offset value

/-- How an edit ends, and what it leaves. -/
inductive Ends (t : Tensor α) : Edit α → Outcome Unit → Tensor α → Prop where
  | zeros {s : Shape} (h : s.Storable α) :
      Ends t (.zeros s) (.ok ()) (zerosOf s)
  | ofArray {s : Shape} {data : Array α} (h : s.size? = some data.size) :
      Ends t (.ofArray s data) (.ok ()) ⟨s, data⟩
  | resize {s : Shape} (h : s.Storable α) :
      Ends t (.resize s) (.ok ()) (zerosOf s)
  | write {offset : Nat} {value : α} (h : offset < t.data.size) :
      Ends t (.write offset value) (.ok ())
        { t with data := t.data.setIfInBounds offset value }
  /-- Elements of another number are not taken. -/
  | declined {s : Shape} {data : Array α} {n : Nat} (h : s.size? = some n)
      (hne : data.size ≠ n) :
      Ends t (.ofArray s data) (.ok ()) t
  | noZeros {s : Shape} (h : ¬s.Storable α) :
      Ends t (.zeros s) (.error .fault) t
  | noSize {s : Shape} {data : Array α} (h : s.size? = none) :
      Ends t (.ofArray s data) (.error .fault) t
  | tears {s : Shape} (h : ¬s.Storable α) :
      Ends t (.resize s) (.error .fault) ⟨s, #[]⟩
  | outside {offset : Nat} {value : α} (h : t.data.size ≤ offset) :
      Ends t (.write offset value) (.error .fault) t

variable {e : Edit α}

/-- The ways an edit can end. -/
theorem ends_of_step (h : e.step.runFrom t = (outcome, t')) :
    Ends t e outcome t' := by
  cases e with
  | zeros s =>
      by_cases hs : s.Storable α
      · rw [step, zeros?_of_storable hs] at h
        cases h
        exact .zeros hs
      · rw [step, zeros?_of_not_storable hs] at h
        cases h
        exact .noZeros hs
  | ofArray s data =>
      rw [step, ofArray?] at h
      cases hsize : s.size? with
      | none =>
          rw [hsize] at h
          cases h
          exact .noSize hsize
      | some n =>
          rw [hsize, Option.bind_eq_bind, Option.bind_some] at h
          by_cases hdata : data.size = n
          · rw [if_pos hdata] at h
            cases h
            exact .ofArray (hdata ▸ hsize)
          · rw [if_neg hdata] at h
            cases h
            exact .declined hsize hdata
  | resize s =>
      by_cases hs : s.Storable α
      · rw [step, resize_of_storable t hs] at h
        cases h
        exact .resize hs
      · rw [step, resize_of_not_storable t hs] at h
        cases h
        exact .tears hs
  | write offset value =>
      by_cases hlt : offset < t.data.size
      · rw [step, write_of_lt value hlt] at h
        cases h
        exact .write hlt
      · rw [step, write_of_le value (Nat.le_of_not_lt hlt)] at h
        cases h
        exact .outside (Nat.le_of_not_lt hlt)

/-- Whether an edit gives the tensor another shape. A resize does so even
when it faults. -/
def Reshapes : Edit α → Prop
  | .zeros shape => shape.Storable α
  | .ofArray shape data => shape.size? = some data.size
  | .resize _ => True
  | .write _ _ => False

namespace Ends

/-- An edit that is no resize keeps shape and length, however it ends. -/
theorem alike_of_not_reshapes (h : Ends t e outcome t') (hno : ¬e.Reshapes) :
    t'.shape = t.shape ∧ t'.data.size = t.data.size := by
  cases h with
  | zeros hs => exact absurd hs hno
  | ofArray hs => exact absurd hs hno
  | resize hs => exact absurd trivial hno
  | write hlt => exact ⟨rfl, Array.size_setIfInBounds⟩
  | declined hs hne => exact ⟨rfl, rfl⟩
  | noZeros hs => exact ⟨rfl, rfl⟩
  | noSize hs => exact ⟨rfl, rfl⟩
  | tears hs => exact absurd trivial hno
  | outside hle => exact ⟨rfl, rfl⟩

/-- Another shape comes with its elements, unless a resize faulted. -/
theorem whole_or_torn (h : Ends t e outcome t') (hre : e.Reshapes) :
    t'.Whole ∨ ∃ s, e = .resize s ∧ ¬s.Storable α := by
  cases h with
  | zeros hs => exact .inl zerosOf_whole
  | ofArray hs => exact .inl (Shape.size?_eq_some_iff.1 hs).2.2.symm
  | resize hs => exact .inl zerosOf_whole
  | write hlt => exact absurd hre id
  | declined hs hne =>
      rw [Reshapes, hs, Option.some.injEq] at hre
      exact absurd hre.symm hne
  | noZeros hs => exact absurd hre hs
  | noSize hs =>
      rw [Reshapes, hs] at hre
      cases hre
  | tears hs => exact .inr ⟨_, rfl, hs⟩
  | outside hle => exact absurd hre id

/-- What a fault leaves. -/
theorem eq_of_error {failure : Failure} (h : Ends t e (.error failure) t') :
    (∃ s, e = .resize s ∧ t' = ⟨s, #[]⟩) ∨ ((∀ s, e ≠ .resize s) ∧ t' = t) := by
  cases h with
  | noZeros hs => exact .inr ⟨nofun, rfl⟩
  | noSize hs => exact .inr ⟨nofun, rfl⟩
  | tears hs => exact .inl ⟨_, rfl, rfl⟩
  | outside hle => exact .inr ⟨nofun, rfl⟩

end Ends

end Edit

-- ============================================================ many edits

/-- The tensor after some edits, faulting ones included. -/
def after (t : Tensor α) (edits : List (Edit α)) : Tensor α :=
  edits.foldl (fun t e => (e.step.runFrom t).2) t

variable {edits : List (Edit α)}

/-- The last edit comes after the others. -/
theorem after_concat (e : Edit α) :
    t.after (edits ++ [e]) = (e.step.runFrom (t.after edits)).2 := by
  rw [after, List.foldl_append]
  rfl

/-- So how a history ends is told by its last edit. -/
theorem ends_after (t : Tensor α) (edits : List (Edit α)) (e : Edit α) :
    Edit.Ends (t.after edits) e (e.step.runFrom (t.after edits)).1
      (t.after (edits ++ [e])) := by
  rw [after_concat]
  exact Edit.ends_of_step rfl

/-- The last edit that reshaped the tensor is a resize to `s` that
faulted. -/
def Torn (edits : List (Edit α)) (s : Shape) : Prop :=
  ∃ before later, edits = before ++ .resize s :: later ∧ ¬s.Storable α ∧
    ∀ e ∈ later, ¬e.Reshapes

/-- The torn tensor has no elements, and no write gives it any. -/
theorem after_of_torn (t : Tensor α) (h : Torn edits s) :
    t.after edits = ⟨s, #[]⟩ := by
  obtain ⟨before, later, rfl, hs, hlater⟩ := h
  induction later using List.reverseRecOn with
  | nil =>
      cases hend : (Edit.resize s : Edit α).step.runFrom (t.after before) with
      | mk outcome t' =>
          rw [after_concat, hend]
          cases Edit.ends_of_step hend with
          | resize hstorable => exact absurd hstorable hs
          | tears hstorable => rfl
  | append_singleton later e ih =>
      have hbefore := ih fun e' he' => hlater e' (List.mem_append_left _ he')
      have hends := ends_after t (before ++ .resize s :: later) e
      rw [hbefore, List.append_assoc, List.cons_append] at hends
      obtain ⟨hshape, hsize⟩ := hends.alike_of_not_reshapes
        (hlater e (List.mem_append_right _ List.mem_cons_self))
      cases hafter : t.after (before ++ .resize s :: (later ++ [e])) with
      | mk shape data =>
          rw [hafter] at hshape hsize
          obtain rfl : shape = s := hshape
          obtain rfl : data = #[] := Array.eq_empty_of_size_eq_zero hsize
          rfl

/-- Edits leave a tensor whole, or torn. -/
theorem whole_or_torn (ht : t.Whole) (edits : List (Edit α)) :
    (t.after edits).Whole ∨ ∃ s, Torn edits s := by
  induction edits using List.reverseRecOn with
  | nil => exact .inl ht
  | append_singleton edits e ih =>
      have hends := ends_after t edits e
      by_cases hre : e.Reshapes
      · rcases hends.whole_or_torn hre with hwhole | ⟨s, rfl, hs⟩
        · exact .inl hwhole
        · exact .inr ⟨s, edits, [], rfl, hs,
            fun _ he => absurd he List.not_mem_nil⟩
      · rcases ih with hwhole | ⟨s, before, later, rfl, hs, hlater⟩
        · obtain ⟨hshape, hsize⟩ := hends.alike_of_not_reshapes hre
          refine .inl ?_
          rw [Whole, hshape, hsize]
          exact hwhole
        · refine .inr ⟨s, before, later ++ [e], by
            rw [List.append_assoc, List.cons_append], hs, ?_⟩
          intro e' he'
          rcases List.mem_append.1 he' with he' | he'
          · exact hlater e' he'
          · rw [List.mem_singleton.1 he']
            exact hre

/-- After any edits a tensor is as long as its shape says, unless the last
edit that reshaped it is a resize to a shape with elements that no tensor
can have: then it has that shape and no elements. An edit that faults
leaves the tensor as it was, unless it is a resize: that leaves its shape
and no elements. -/
theorem edits_keep_whole (t : Tensor α) (ht : t.Whole) (edits : List (Edit α)) :
    ((t.after edits).Whole ↔ ∀ s, Torn edits s → s.volume = 0)
      ∧ (∀ s, Torn edits s → t.after edits = ⟨s, #[]⟩)
      ∧ ∀ (e : Edit α) (failure : Failure),
        (e.step.runFrom (t.after edits)).1 = .error failure →
          (∃ s, e = .resize s ∧ t.after (edits ++ [e]) = ⟨s, #[]⟩)
            ∨ ((∀ s, e ≠ .resize s)
              ∧ t.after (edits ++ [e]) = t.after edits) := by
  refine ⟨⟨?_, ?_⟩, fun s hs => after_of_torn t hs, ?_⟩
  · intro hwhole s hs
    rw [Whole, after_of_torn t hs] at hwhole
    exact hwhole.symm
  · intro hempty
    rcases whole_or_torn ht edits with hwhole | ⟨s, hs⟩
    · exact hwhole
    · rw [Whole, after_of_torn t hs]
      exact (hempty s hs).symm
  · intro e failure hfailure
    have hends := ends_after t edits e
    rw [hfailure] at hends
    exact hends.eq_of_error

/-- A resize that faults over a shape without elements tears nothing. -/
theorem edits_keep_whole_flat :
    (zerosOf ⟨1, 2, 1⟩ : Tensor UInt8).Whole
      ∧ ((zerosOf ⟨1, 2, 1⟩ : Tensor UInt8).after
          [.write 1 7, .resize ⟨4294967296, 4294967296, 0⟩,
            .write 0 7]).Whole := by
  have hwhole : (zerosOf ⟨1, 2, 1⟩ : Tensor UInt8).Whole := zerosOf_whole
  refine ⟨hwhole, (edits_keep_whole _ hwhole _).1.2 fun s hs => ?_⟩
  obtain ⟨before, later, hedits, -, -⟩ := hs
  have hmem : Edit.resize s ∈
      ([.write 1 7, .resize ⟨4294967296, 4294967296, 0⟩, .write 0 7] : List
        (Edit UInt8)) := by
    rw [hedits]
    exact List.mem_append_right _ List.mem_cons_self
  simp only [List.mem_cons, Edit.resize.injEq, reduceCtorEq,
    List.not_mem_nil, or_false, false_or] at hmem
  rw [hmem]
  rfl

/-- A pair of bytes, resized to more elements than a word counts: the pair
is lost, and what is left has a shape and no elements. -/
theorem resize_tears_pair :
    (empty.after [.zeros ⟨2, 1, 1⟩, .write 1 7] : Tensor UInt8)
      = ⟨⟨2, 1, 1⟩, #[0, 7]⟩
      ∧ ((Edit.resize ⟨4294967296, 4294967296, 1⟩ : Edit UInt8).step.runFrom
          ⟨⟨2, 1, 1⟩, #[0, 7]⟩).1 = .error .fault
      ∧ (empty.after [.zeros ⟨2, 1, 1⟩, .write 1 7,
        .resize ⟨4294967296, 4294967296, 1⟩] :
          Tensor UInt8) = ⟨⟨4294967296, 4294967296, 1⟩, #[]⟩
      ∧ ¬(⟨⟨4294967296, 4294967296, 1⟩, #[]⟩ : Tensor UInt8).Whole :=
  ⟨by decide, rfl, by decide, by unfold Whole; decide⟩

end Tensor

end FireNet
