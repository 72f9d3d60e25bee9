/-
Passes that leave each other alone. A pass looks only at the tensors that
its operator reads or writes, so it ends alike on all arenas that agree on
them (`Operator.forward_sees`). Two operators neither of which writes what
the other sees can therefore run in either order.

A pass writes its outputs over completely, from inputs that it leaves as
they are. Run once more it finds what it found before, and changes nothing
(`Step.Settles`). For parts that run in a row this asks that no part writes
what an earlier one sees; a set-up sees to that, because the tensors that it
allocates for a part are newer than all that the earlier parts were bound
to.

The arenas are any arenas. That a pass came out says all that is needed of
the lengths of its tensors, and of their shapes nothing is asked.
-/
import FireNet.Proofs.Operator.Chain
import FireNet.Proofs.Operator.Replay

set_option autoImplicit false

namespace FireNet

-- ============================================================= agreement

/-- Two arenas have the same tensors, or none, under these ids. -/
def Arena.AgreeOn (P : TensorId → Prop) (a b : Arena) : Prop :=
  ∀ id, P id → a.tensor? id = b.tensor? id

namespace Arena.AgreeOn

variable {P : TensorId → Prop} {a b : Arena} {id : TensorId} {t : Tensor Single}

/-- Agreement on a tensor is agreement on its content. -/
theorem data? (h : AgreeOn P a b) (hid : P id) : a.data? id = b.data? id := by
  rw [Arena.data?, Arena.data?, h id hid]

/-- They still do after the same is put into both. -/
theorem put (h : AgreeOn P a b) : AgreeOn P (a.put id t) (b.put id t) := by
  intro other hother
  by_cases heq : other = id
  · subst heq
    rw [tensor?_put_eq_map, tensor?_put_eq_map, h other hother]
  · rw [tensor?_put_of_ne heq, tensor?_put_of_ne heq, h other hother]

end Arena.AgreeOn

/-- On arenas that agree on these ids, and perhaps on others, the step ends
alike, and all that they agreed on they still do. -/
def Step.Sees {α : Type} (step : Step Arena α) (ids : List TensorId) : Prop :=
  ∀ P : TensorId → Prop, (∀ id ∈ ids, P id) → ∀ a b : Arena, a.AgreeOn P b →
    (step.runFrom a).1 = (step.runFrom b).1
      ∧ (step.runFrom a).2.AgreeOn P (step.runFrom b).2

namespace Step.Sees

variable {α β : Type} {x : Step Arena α} {ids more : List TensorId}

/-- A given outcome is the same in every arena. -/
theorem ofOutcome {outcome : Outcome α} :
    Sees (Step.ofOutcome outcome) ids := by
  intro P _ a b hab
  cases outcome with
  | error e => exact ⟨rfl, hab⟩
  | ok value => exact ⟨rfl, hab⟩

theorem pure {value : α} : Sees (Pure.pure value) ids :=
  fun _ _ _ _ hab => ⟨rfl, hab⟩

theorem refuse {e : Error} : Sees (FireNet.refuse e : Step Arena α) ids :=
  fun _ _ _ _ hab => ⟨rfl, hab⟩

/-- A step that goes on by what it found sees what both parts see. -/
theorem bind {f : α → Step Arena β} (hx : Sees x ids)
    (hf : ∀ value, Sees (f value) ids) :
    Sees (x >>= f) ids := by
  intro P hP a b hab
  obtain ⟨hend, hafter⟩ := hx P hP a b hab
  unfold Step.runFrom at hend hafter ⊢
  cases ha : x a with
  | error e a' =>
      cases hb : x b with
      | error e' b' =>
          rw [ha, hb] at hend hafter
          rw [bind_of_error ha, bind_of_error hb]
          exact ⟨congrArg Except.error (Except.error.inj hend), hafter⟩
      | ok value b' =>
          rw [ha, hb] at hend
          cases hend
  | ok value a' =>
      cases hb : x b with
      | error e' b' =>
          rw [ha, hb] at hend
          cases hend
      | ok value' b' =>
          rw [ha, hb] at hend hafter
          cases hend
          rw [bind_of_ok ha, bind_of_ok hb]
          exact hf value P hP a' b' hafter

/-- A step that goes on from what it has read in the arena. -/
theorem get_bind {f : Arena → Step Arena β} (hf : ∀ a, Sees (f a) ids)
    (hread : ∀ a b : Arena, a.AgreeOn (· ∈ ids) b → f a = f b) :
    Sees (get >>= f) ids := by
  intro P hP a b hab
  have hsame := hread a b fun id hid => hab id (hP id hid)
  have hrun := hf a P hP a b hab
  unfold Step.runFrom at hrun ⊢
  rw [Step.get_bind, Step.get_bind, ← hsame]
  exact hrun

/-- It may be said to see more. -/
theorem mono (hx : Sees x ids) (hids : ids ⊆ more) : Sees x more :=
  fun P hP => hx P fun id hid => hP id (hids hid)

/-- Two passes in a row see what the one and the other see. -/
theorem andThen {y : α → Step Arena β}
    {reads writes reads' writes' : List TensorId}
    (hx : Sees x (reads ++ writes))
    (hy : ∀ value, Sees (y value) (reads' ++ writes')) :
    Sees (x >>= y) ((reads ++ reads') ++ (writes ++ writes')) := by
  refine (hx.mono fun id hid => ?_).bind fun value =>
    (hy value).mono fun id hid => ?_
  · simp only [List.mem_append] at hid ⊢
    exact hid.imp .inl .inl
  · simp only [List.mem_append] at hid ⊢
    exact hid.imp .inr .inr

/-- A check looks at the one tensor that it names. -/
theorem checkBound {op : String} {id : TensorId} {bound : Shape}
    (hid : id ∈ ids) :
    Sees (Arena.checkBound op id bound) ids := by
  refine get_bind
    (fun a => ofOutcome.bind fun data => ofOutcome.bind fun size => ?_)
    fun a b hab => ?_
  · split
    · exact refuse
    · exact pure
  · simp only [hab.data? hid]

/-- An output computed from tensors that the step sees. -/
theorem withOutput {output : TensorId}
    {fill : Arena → Array Single → Option (β × Array Single)}
    (hout : output ∈ ids)
    (hfill : ∀ a b : Arena, a.AgreeOn (· ∈ ids) b → fill a = fill b) :
    Sees (Arena.withOutput output fill) ids := by
  intro P hP a b hab
  have hsame : fill (a.put output Tensor.empty)
      = fill (b.put output Tensor.empty) :=
    hfill _ _ fun id hid => hab.put id (hP id hid)
  unfold Arena.withOutput Step.runFrom
  dsimp only
  rw [hab output (hP output hout), hsame]
  cases b.tensor? output with
  | none => exact ⟨rfl, hab⟩
  | some t =>
      dsimp only
      cases fill (b.put output Tensor.empty) t.data with
      | none => exact ⟨rfl, hab.put⟩
      | some result => exact ⟨rfl, hab.put.put⟩

/-- A filler that works alike on arenas that agree may be put between two
detached outputs, which are seen as well. -/
theorem withOutputs {first second : TensorId}
    {fill : Arena → Array Single → Array Single →
      Option (β × Array Single × Array Single)}
    (hfirst : first ∈ ids) (hsecond : second ∈ ids)
    (hfill : ∀ a b : Arena, a.AgreeOn (· ∈ ids) b → fill a = fill b) :
    Sees (Arena.withOutputs first second fill) ids := by
  intro P hP a b hab
  have hput : (a.put first Tensor.empty).AgreeOn P (b.put first Tensor.empty) :=
    hab.put
  have hsame : fill ((a.put first Tensor.empty).put second Tensor.empty)
      = fill ((b.put first Tensor.empty).put second Tensor.empty) :=
    hfill _ _ fun id hid => hput.put id (hP id hid)
  unfold Arena.withOutputs Step.runFrom
  dsimp only
  by_cases heq : first = second
  · rw [if_pos heq, if_pos heq]
    exact ⟨rfl, hab⟩
  · rw [if_neg heq, if_neg heq, hab first (hP first hfirst)]
    cases b.tensor? first with
    | none => exact ⟨rfl, hab⟩
    | some t =>
        dsimp only
        rw [hput second (hP second hsecond), hsame]
        cases (b.put first Tensor.empty).tensor? second with
        | none => exact ⟨rfl, hput⟩
        | some u =>
            dsimp only
            cases fill ((b.put first Tensor.empty).put second Tensor.empty)
              t.data u.data with
            | none => exact ⟨rfl, hput.put⟩
            | some result => exact ⟨rfl, hput.put.put.put⟩

end Step.Sees

-- ================================================================= sight

/-- A primitive sees its input and its output. -/
theorem Primitive.forward_sees (p : Primitive) :
    p.forward.Sees (p.reads ++ p.writes) := by
  have hin : p.input ∈ p.reads ++ p.writes := List.mem_cons_self
  have hout : p.output ∈ p.reads ++ p.writes :=
    List.mem_cons_of_mem _ List.mem_cons_self
  refine .bind (.checkBound hin) fun _ => .bind (.checkBound hout) fun _ => ?_
  exact .withOutput hout fun a b hab => by simp only [hab.data? hin]

/-- A split sees the tensor it halves and the halves. -/
theorem Split.forward_sees (s : Split) :
    s.forward.Sees (s.reads ++ s.writes) := by
  have hin : s.input ∈ s.reads ++ s.writes := List.mem_cons_self
  have hfirst : s.first ∈ s.reads ++ s.writes :=
    List.mem_cons_of_mem _ List.mem_cons_self
  have hsecond : s.second ∈ s.reads ++ s.writes :=
    List.mem_cons_of_mem _ (List.mem_cons_of_mem _ List.mem_cons_self)
  refine .bind (.checkBound hin) fun _ => .bind (.checkBound hfirst) fun _ =>
    .bind (.checkBound hsecond) fun _ => ?_
  exact .withOutputs hfirst hsecond fun a b hab => by simp only [hab.data? hin]

/-- An interleave sees both tensors and where they meet. -/
theorem Interleave.forward_sees (i : Interleave) :
    i.forward.Sees (i.reads ++ i.writes) := by
  have hfirst : i.first ∈ i.reads ++ i.writes := List.mem_cons_self
  have hsecond : i.second ∈ i.reads ++ i.writes :=
    List.mem_cons_of_mem _ List.mem_cons_self
  have hout : i.output ∈ i.reads ++ i.writes :=
    List.mem_cons_of_mem _ (List.mem_cons_of_mem _ List.mem_cons_self)
  refine .bind (.checkBound hfirst) fun _ =>
    .bind (.checkBound hsecond) fun _ =>
    .bind (.checkBound hout) fun _ => ?_
  exact .withOutput hout fun a b hab => by
    simp only [hab.data? hfirst, hab.data? hsecond]

theorem SideBranch.forward_sees (b : SideBranch) :
    b.forward.Sees (b.reads ++ b.writes) :=
  b.depthwise.forward_sees.andThen fun _ => b.pointwise.forward_sees

theorem MainBranch.forward_sees (b : MainBranch) :
    b.forward.Sees (b.reads ++ b.writes) :=
  b.reduce.forward_sees.andThen fun _ =>
    b.depthwise.forward_sees.andThen fun _ => b.expand.forward_sees

theorem BlockPath.forward_sees (path : BlockPath) :
    path.forward.Sees (path.reads ++ path.writes) := by
  cases path with
  | downsample side main => exact side.forward_sees.andThen fun _ =>
    main.forward_sees
  | keep split main => exact split.forward_sees.andThen fun _ =>
    main.forward_sees

/-- A block sees its path and its shuffle. -/
theorem Block.forward_sees (b : Block) : b.forward.Sees (b.reads ++ b.writes) :=
  b.path.forward_sees.andThen fun _ => b.shuffle.forward_sees

/-- Blocks in a row see what each of them sees. -/
theorem Stage.forwardBlocks_sees (blocks : List Block) :
    (forwardBlocks blocks).Sees
      (blocks.flatMap Block.reads ++ blocks.flatMap Block.writes) := by
  induction blocks with
  | nil => exact .pure
  | cons b rest ih =>
      rw [List.flatMap_cons, List.flatMap_cons]
      exact b.forward_sees.andThen fun _ => ih

/-- A pass depends on the tensors that it reads or writes, and on no other. -/
theorem Operator.forward_sees (o : Operator) :
    o.forward.Sees (o.reads ++ o.writes) := by
  cases o with
  | primitive p => exact p.forward_sees
  | split s => exact s.forward_sees
  | interleave i => exact i.forward_sees
  | sideBranch b => exact b.forward_sees
  | mainBranch b => exact b.forward_sees
  | block b => exact b.forward_sees
  | stage s => exact Stage.forwardBlocks_sees s.blocks

-- ============================================================= two orders

namespace Step

variable {x y : Step Arena Unit} {seen seen' written written' : List TensorId}
  {a a₁ a₂ b : Arena}

/-- What a step sees is all that it takes for it to come out. -/
theorem Sees.exists_ok (hx : x.Sees seen) (h : x a = .ok () a₁)
    (hab : a.AgreeOn (· ∈ seen) b) :
    ∃ b₁, x b = .ok () b₁ ∧ a₁.AgreeOn (· ∈ seen) b₁ := by
  obtain ⟨hend, hafter⟩ := hx _ (fun _ hid => hid) a b hab
  unfold Step.runFrom at hend hafter
  rw [h] at hend hafter
  cases hb : x b with
  | error e b₁ =>
      rw [hb] at hend
      cases hend
  | ok value b₁ =>
      rw [hb] at hafter
      exact ⟨b₁, rfl, hafter⟩

/-- A step leaves what it does not write. -/
theorem Writes.of_ok (hx : x.Writes written) (h : x a = .ok () a₁)
    {id : TensorId} (hid : id ∉ written) : a₁.tensor? id = a.tensor? id := by
  have hkept := hx a id hid
  unfold Step.runFrom at hkept
  rw [h] at hkept
  exact hkept

/-- Two steps neither of which writes what the other sees can be taken in
either order. -/
theorem commute (hx : x.Sees seen) (hxw : x.Writes written) (hy : y.Sees seen')
    (hyw : y.Writes written') (hown : written ⊆ seen) (hown' : written' ⊆ seen')
    (h : ∀ id ∈ written, id ∉ seen') (h' : ∀ id ∈ written', id ∉ seen)
    (hxa : x a = .ok () a₁) (hya : y a = .ok () a₂) :
    ∃ a', y a₁ = .ok () a' ∧ x a₂ = .ok () a' := by
  obtain ⟨b₂, hb₂, hagree₂⟩ := hy.exists_ok hya
    fun id hid => (hxw.of_ok hxa fun hmem => h id hmem hid).symm
  obtain ⟨b₁, hb₁, hagree₁⟩ := hx.exists_ok hxa
    fun id hid => (hyw.of_ok hya fun hmem => h' id hmem hid).symm
  have hsame : b₁ = b₂ := by
    refine Arena.ext_tensor? fun id => ?_
    by_cases hid : id ∈ written
    · have hid' : id ∉ written' := fun hmem => h id hid (hown' hmem)
      rw [hyw.of_ok hb₂ hid', ← hagree₁ id (hown hid)]
    · rw [hxw.of_ok hb₁ hid]
      by_cases hid' : id ∈ written'
      · rw [← hagree₂ id (hown' hid')]
      · rw [hyw.of_ok hb₂ hid', hxw.of_ok hxa hid, hyw.of_ok hya hid']
  exact ⟨b₂, hb₂, hsame ▸ hb₁⟩

-- ============================================================= once more

/-- After the step came out it comes out again, and changes nothing. -/
def Settles (x : Step Arena Unit) : Prop :=
  ∀ a a', x a = .ok () a' → x a' = .ok () a'

/-- In a row steps settle when the second writes nothing that the first one
sees. -/
theorem Settles.andThen (hx : x.Settles) (hy : y.Settles) (hsees : x.Sees seen)
    (hxw : x.Writes seen) (hyw : y.Writes written)
    (h : ∀ id ∈ written, id ∉ seen) :
    Settles (x >>= fun _ => y) := by
  intro a c hrun
  obtain ⟨_, b, hb, hc⟩ := bind_eq_ok_iff.1 hrun
  have hagree : b.AgreeOn (· ∈ seen) c :=
    fun id hid => (hyw.of_ok hc fun hmem => h id hmem hid).symm
  obtain ⟨d, hd, hafter⟩ := hsees.exists_ok (hx a b hb) hagree
  have hsame : d = c := by
    refine Arena.ext_tensor? fun id => ?_
    by_cases hid : id ∈ seen
    · rw [← hafter id hid, hagree id hid]
    · exact hxw.of_ok hd hid
  exact bind_eq_ok_iff.2 ⟨(), c, hsame ▸ hd, hy b c hc⟩

end Step

/-- The check looks at lengths alone. -/
theorem Arena.Alike.checkBound {a b : Arena} (h : a.Alike b) {op : String}
    {id : TensorId} {bound : Shape}
    (hcheck : ∃ t, a.tensor? id = some t ∧ bound.size? = some t.data.size) :
    Arena.checkBound op id bound b = .ok () b := by
  obtain ⟨t, ht, hsize⟩ := hcheck
  have hid := h id
  rw [ht, Option.map_some] at hid
  obtain ⟨u, hu, heq⟩ := Option.map_eq_some_iff.1 hid.symm
  exact checkBound_eq_ok_iff.2
    ⟨⟨u, hu, hsize.trans (congrArg some (Prod.mk.inj heq).2.symm)⟩, rfl⟩

/-- A convolution of either loop paints its output, so a second one finds it
painted. -/
theorem Filter.convolve?_again {f : Filter} {backend : Backend}
    {input out r : Array Single} {image outShape : Shape}
    (h : f.convolve? input image outShape out backend = some r) :
    r.size = out.size ∧ f.convolve? input image outShape r backend
      = some r := by
  simp only [convolve?, Option.bind_eq_bind, Option.bind_eq_some_iff,
    Option.ite_none_left_eq_some] at h ⊢
  obtain ⟨inSize, hin, outSize, hout, weights, hweights, hlengths, h⟩ := h
  have hpaint : r.size = out.size ∧
      (if isPointwise f.window then f.pointwise? input image backend
        outShape.channels r
        else f.dense? input image backend outShape r) = some r := by
    by_cases hpoint : isPointwise f.window = true
    · rw [if_pos hpoint] at h ⊢
      simp only [pointwise?, Option.ite_none_left_eq_some] at h ⊢
      obtain ⟨hsize, hagain⟩ := Kernel.paint?_again h.2
      rw [← hsize] at hagain
      exact ⟨hsize, h.1, hagain⟩
    · rw [if_neg hpoint] at h ⊢
      simp only [dense?, Option.ite_none_left_eq_some] at h ⊢
      obtain ⟨hsize, hagain⟩ := Kernel.paint?_again h.2
      exact ⟨hsize, h.1, hagain⟩
  rw [← hpaint.1] at hlengths
  exact ⟨hpaint.1, inSize, hin, outSize, hout, weights, hweights,
    hlengths, hpaint.2⟩

/-- Computed over its own result an action gives that result. -/
theorem Action.compute?_again {action : Action} {backend : Backend}
    {input out r : Array Single} {inShape outShape : Shape}
    (h : action.compute? backend input inShape outShape out = some r) :
    r.size = out.size ∧ action.compute? backend input inShape outShape r
      = some r := by
  cases action with
  | convolution layer => exact Filter.convolve?_again h
  | depthwise layer =>
      simp only [compute?, Filter.depthwise?, Option.bind_eq_bind,
        Option.bind_eq_some_iff, Option.ite_none_left_eq_some] at h ⊢
      obtain ⟨cells, hcells, weights, hweights, hlengths, hbias, h⟩ := h
      obtain ⟨hsize, hagain⟩ := Kernel.paint?_again h
      exact ⟨hsize, cells, hcells, weights, hweights, hlengths, hbias, hagain⟩
  | maxPool w => exact Kernel.paint?_again h
  | meanPool =>
      simp only [compute?, Kernel.meanPool?, Option.bind_eq_bind,
        Option.bind_eq_some_iff, Option.ite_none_left_eq_some] at h ⊢
      obtain ⟨positions, hpositions, hlengths, h⟩ := h
      obtain ⟨hsize, hagain⟩ := Kernel.paint?_again h
      rw [← hsize] at hlengths
      exact ⟨hsize, positions, hpositions, hlengths, hagain⟩
  | fullyConnected layer =>
      simp only [compute?, Kernel.affine?, Option.bind_eq_bind,
        Option.bind_eq_some_iff, Option.ite_none_left_eq_some] at h ⊢
      obtain ⟨expected, hexpected, hlengths, h⟩ := h
      obtain ⟨hsize, hagain⟩ := Kernel.paint?_again h
      rw [← hsize] at hexpected hagain
      exact ⟨hsize, expected, hexpected, hlengths, hagain⟩

/-- A primitive overwrites its whole output from its input, so that doing it
again changes nothing. -/
theorem Primitive.forward_settles (p : Primitive) : p.forward.Settles := by
  intro a a' h
  simp only [forward, Step.bind_eq_ok_iff, Arena.checkBound_eq_ok_iff,
    Arena.withOutput_eq_ok_iff] at h
  obtain ⟨_, _, ⟨hin, rfl⟩, _, _, ⟨hout, rfl⟩, old, r, hold, hfill, rfl⟩ := h
  obtain ⟨seen, hseen, hfill⟩ := Option.bind_eq_some_iff.1 hfill
  obtain ⟨data, hcompute, heq⟩ := Option.bind_eq_some_iff.1 hfill
  cases heq
  obtain ⟨hsize, hagain⟩ := Action.compute?_again hcompute
  have halike : a.Alike (a.put p.output ⟨old.shape, r⟩) :=
    Arena.alike_put hold rfl hsize
  -- while the output is out there is no telling the two arenas apart
  refine Step.bind_eq_ok_iff.2 ⟨(), _, halike.checkBound hin,
    Step.bind_eq_ok_iff.2 ⟨(), _, halike.checkBound hout,
    Arena.withOutput_eq_ok_iff.2
      ⟨⟨old.shape, r⟩, r, ?_, ?_, Arena.put_put.symm⟩⟩⟩
  · exact Arena.tensor?_put_self (Arena.tensor?_eq_some_lt hold)
  · rw [Arena.put_put]
    simp only [hseen, hagain, Option.bind_eq_bind, Option.bind_some]

theorem Interleave.forward_settles (i : Interleave) : i.forward.Settles := by
  intro a a' h
  simp only [forward, Step.bind_eq_ok_iff, Arena.checkBound_eq_ok_iff,
    Arena.withOutput_eq_ok_iff] at h
  obtain ⟨_, _, ⟨hfirst, rfl⟩, _, _, ⟨hsecond, rfl⟩, _, _, ⟨hout, rfl⟩, old, r,
    hold, hfill, rfl⟩ := h
  obtain ⟨x, hx, hfill⟩ := Option.bind_eq_some_iff.1 hfill
  obtain ⟨y, hy, hfill⟩ := Option.bind_eq_some_iff.1 hfill
  obtain ⟨data, hweave, heq⟩ := Option.bind_eq_some_iff.1 hfill
  cases heq
  obtain ⟨hsize, hagain⟩ := Kernel.paint?_again hweave
  have halike : a.Alike (a.put i.output ⟨old.shape, r⟩) :=
    Arena.alike_put hold rfl hsize
  refine Step.bind_eq_ok_iff.2 ⟨(), _, halike.checkBound hfirst,
    Step.bind_eq_ok_iff.2 ⟨(), _, halike.checkBound hsecond,
    Step.bind_eq_ok_iff.2 ⟨(), _, halike.checkBound hout,
    Arena.withOutput_eq_ok_iff.2
      ⟨⟨old.shape, r⟩, r, ?_, ?_, Arena.put_put.symm⟩⟩⟩⟩
  · exact Arena.tensor?_put_self (Arena.tensor?_eq_some_lt hold)
  · rw [← hsize] at hagain
    rw [Arena.put_put]
    simp only [hx, hy, weave?, hagain, Option.bind_eq_bind, Option.bind_some]

theorem Split.forward_settles (s : Split) : s.forward.Settles := by
  intro a a' h
  simp only [forward, Step.bind_eq_ok_iff, Arena.checkBound_eq_ok_iff,
    Arena.withOutputs_eq_ok_iff] at h
  obtain ⟨_, _, ⟨hin, rfl⟩, _, _, ⟨hfirst, rfl⟩, _, _, ⟨hsecond, rfl⟩, hne, t,
    u, x, y, ht, hu, hfill, rfl⟩ := h
  obtain ⟨seen, hseen, hfill⟩ := Option.bind_eq_some_iff.1 hfill
  obtain ⟨hhalf, hfill⟩ := Option.ite_none_left_eq_some.1 hfill
  obtain ⟨x', hx, hfill⟩ := Option.bind_eq_some_iff.1 hfill
  obtain ⟨y', hy, heq⟩ := Option.bind_eq_some_iff.1 hfill
  cases heq
  obtain ⟨hxsize, hxagain⟩ := Kernel.paint?_again hx
  obtain ⟨hysize, hyagain⟩ := Kernel.paint?_again hy
  have hu' : (a.put s.first ⟨t.shape, x⟩).tensor? s.second = some u :=
    (Arena.tensor?_put_of_ne (Ne.symm hne)).trans hu
  have halike₁ : a.Alike (a.put s.first ⟨t.shape, x⟩) :=
    Arena.alike_put ht rfl hxsize
  have halike : a.Alike ((a.put s.first ⟨t.shape, x⟩).put s.second
      ⟨u.shape, y⟩) :=
    halike₁.trans (Arena.alike_put hu' rfl hysize)
  -- of two passes the second alone shows
  have hrest (b : Arena) (v v' w w' : Tensor Single) :
      (((b.put s.first v).put s.second w).put s.first v').put s.second w'
        = (b.put s.first v').put s.second w' := by
    rw [Arena.put_comm hne, Arena.put_put, Arena.put_comm hne.symm,
      Arena.put_put]
  refine Step.bind_eq_ok_iff.2 ⟨(), _, halike.checkBound hin,
    Step.bind_eq_ok_iff.2 ⟨(), _, halike.checkBound hfirst,
    Step.bind_eq_ok_iff.2 ⟨(), _, halike.checkBound hsecond,
    Arena.withOutputs_eq_ok_iff.2
      ⟨hne, ⟨t.shape, x⟩, ⟨u.shape, y⟩, x, y, ?_, ?_, ?_,
      (hrest _ _ _ _ _).symm⟩⟩⟩⟩
  · rw [Arena.tensor?_put_of_ne hne]
    exact Arena.tensor?_put_self (Arena.tensor?_eq_some_lt ht)
  · exact Arena.tensor?_put_self (Arena.tensor?_eq_some_lt hu')
  · rw [← hxsize, ← hysize] at hxagain hyagain
    rw [hrest]
    simp only [hseen, if_neg hhalf, take?, hxagain, hyagain,
      Option.bind_eq_bind, Option.bind_some]

-- ============================================================== set-ups

/-- The pass of something whose set-up grew one arena into another: by the
tensors that it writes, and it reads none newer. -/
structure Step.Built (a a' : Arena) (x : Step Arena Unit)
    (reads written : List TensorId) : Prop where
  settles : x.Settles
  sees : x.Sees (reads ++ written)
  writes : x.Writes written
  grows : a.GrowsBy written a'
  reads_lt : ∀ id ∈ reads, id.index < a'.tensors.size

namespace Step.Built

variable {a a' a'' : Arena} {x y : Step Arena Unit}
  {reads written reads' written' : List TensorId}

theorem nil : Built a a (pure ()) [] [] :=
  ⟨fun _ _ _ => rfl, .pure, .pure, .refl, fun _ h => absurd h List.not_mem_nil⟩

/-- What is built later writes nothing that was there before. -/
theorem andThen (hx : Built a a' x reads written)
    (hy : Built a' a'' y reads' written') :
    Built a a'' (x >>= fun _ => y) (reads ++ reads') (written ++ written') := by
  have hlt : ∀ id ∈ reads ++ written, id.index < a'.tensors.size :=
    List.forall_mem_append.2
      ⟨hx.reads_lt, fun id hid => (hx.grows.mem_iff.1 hid).2⟩
  have hnew : ∀ id ∈ written', id ∉ reads ++ written := fun id hid hold =>
    Nat.not_lt_of_ge (hy.grows.mem_iff.1 hid).1 (hlt id hold)
  refine ⟨?_, hx.sees.andThen fun _ => hy.sees,
    hx.writes.andThen fun _ => hy.writes,
    hx.grows.trans hy.grows, List.forall_mem_append.2
      ⟨fun id hid => ?_, hy.reads_lt⟩⟩
  · exact hx.settles.andThen hy.settles hx.sees
      (hx.writes.mono (List.subset_append_right _ _)) hy.writes hnew
  · exact Nat.lt_of_lt_of_le (hx.reads_lt id hid) hy.grows.grows.size_le

end Step.Built

variable {b b' : Bench} {name : String} {handle : Handle} {input : TensorId}

/-- A convolution is built with the one tensor that it writes. -/
theorem Binding.convolve_built {kind : Layer → Action} {layer : Layer}
    {p : Primitive}
    (h : Binding.convolve name kind layer input handle b = .ok p b') :
    p.forward.Built b.arena b'.arena p.reads p.writes := by
  obtain ⟨image, outShape, himage, -, -, hfits, -, rfl, rfl⟩ :=
    convolve_eq_ok_iff.1 h
  refine ⟨Primitive.forward_settles _, Primitive.forward_sees _,
    Primitive.forward_writes _, Arena.growsBy_one hfits, fun id hid => ?_⟩
  rw [List.mem_singleton.1 hid]
  exact Arena.shape?_eq_some_lt (Arena.shape?_grow_of_some himage)

/-- A side branch is built with the two tensors that it writes. -/
theorem SideBranch.setup_built {layers : SideLayers} {side : SideBranch}
    (h : SideBranch.setup name input layers handle b = .ok side b') :
    side.forward.Built b.arena b'.arena side.reads side.writes := by
  obtain ⟨after, hafter, rfl⟩ := Binding.balanced_eq_ok_iff.1 h
  simp only [Step.bind_eq_ok_iff, Step.pure_eq_ok_iff] at hafter
  obtain ⟨depthwise, b₁, h₁, pointwise, b₂, h₂, rfl, rfl⟩ := hafter
  have hbuilt := (Binding.convolve_built h₁).andThen (Binding.convolve_built h₂)
  exact hbuilt

/-- A main branch is built with three. -/
theorem MainBranch.setup_built {layers : MainLayers} {main : MainBranch}
    (h : MainBranch.setup name input layers handle b = .ok main b') :
    main.forward.Built b.arena b'.arena main.reads main.writes := by
  obtain ⟨after, hafter, rfl⟩ := Binding.balanced_eq_ok_iff.1 h
  simp only [Step.bind_eq_ok_iff, Step.pure_eq_ok_iff] at hafter
  obtain ⟨reduce, b₁, h₁, depthwise, b₂, h₂, expand, b₃, h₃, rfl, rfl⟩ := hafter
  have hbuilt := (Binding.convolve_built h₁).andThen
    ((Binding.convolve_built h₂).andThen (Binding.convolve_built h₃))
  exact hbuilt

/-- So is either way through a block, with what is on it. -/
theorem Block.setupPath_built {image : Shape} {layers : BlockLayers}
    {path : BlockPath}
    (h : setupPath name input image layers handle b = .ok path b') :
    path.forward.Built b.arena b'.arena path.reads path.writes := by
  rcases setupPath_cases h with ⟨half, split, main, b₁, -, -, hfits,
    hsplit, hmain, rfl⟩
    | ⟨sideLayers, side, main, b₁, -, -, hside, hmain, rfl⟩
  · obtain ⟨_, _, _, hin, -, -, -, rfl, rfl⟩ := Split.setup_eq_ok_iff.1 hsplit
    have hgrows : b.arena.GrowsBy [⟨b.arena.tensors.size⟩,
      ⟨b.arena.tensors.size + 1⟩]
        (b.arena.grow [half, half]) := by
      refine ⟨[half, half], fun s hs => ?_, rfl, rfl⟩
      simp only [List.mem_cons, List.not_mem_nil, or_false, or_self] at hs
      exact hs ▸ hfits
    refine Step.Built.andThen ⟨Split.forward_settles _, Split.forward_sees _,
      Split.forward_writes _, hgrows, fun id hid => ?_⟩
        (MainBranch.setup_built hmain)
    rw [List.mem_singleton.1 hid]
    exact Arena.shape?_eq_some_lt hin
  · exact (SideBranch.setup_built hside).andThen (MainBranch.setup_built hmain)

theorem Block.setup_built {layers : BlockLayers} {block : Block}
    (h : setup name input layers handle b = .ok block b') :
    block.forward.Built b.arena b'.arena block.reads block.writes := by
  obtain ⟨b₁, image, half, hbinds⟩ := exists_binds h
  have hgrows : b₁.arena.GrowsBy block.shuffle.writes b'.arena := by
    rw [hbinds.arena_eq, hbinds.shuffle_eq]
    exact Arena.growsBy_one hbinds.fits
  refine (setupPath_built hbinds.path).andThen ⟨Interleave.forward_settles _,
    Interleave.forward_sees _, Interleave.forward_writes _, hgrows,
    fun id hid => ?_⟩
  simp only [Interleave.reads, hbinds.shuffle_eq, List.mem_cons,
    List.not_mem_nil, or_false] at hid
  rcases hid with rfl | rfl
  · exact Nat.lt_of_lt_of_le (Arena.shape?_eq_some_lt hbinds.first_shape)
      hgrows.grows.size_le
  · exact Arena.shape?_eq_some_lt hbinds.second_shape

/-- Blocks in a row are built one after another. -/
theorem Stage.setupBlocks_built {layers : List BlockLayers} {index : Nat}
    {blocks : List Block}
    (h : setupBlocks name handle index input layers b = .ok blocks b') :
    (forwardBlocks blocks).Built b.arena b'.arena (blocks.flatMap Block.reads)
      (blocks.flatMap Block.writes) := by
  induction layers generalizing index input blocks b with
  | nil =>
      simp only [setupBlocks, Step.pure_eq_ok_iff] at h
      obtain ⟨rfl, rfl⟩ := h
      exact .nil
  | cons l rest ih =>
      simp only [setupBlocks, Step.bind_eq_ok_iff, Step.pure_eq_ok_iff] at h
      obtain ⟨block, b₁, hblock, later, b₂, hlater, rfl, rfl⟩ := h
      rw [List.flatMap_cons, List.flatMap_cons]
      exact (Block.setup_built hblock).andThen (ih hlater)

-- ============================================================== operators

/-- Neither of two operators writes what the other reads or writes. -/
def Operator.Apart (o o' : Operator) : Prop :=
  (∀ id ∈ o.writes, id ∉ o'.reads ∧ id ∉ o'.writes)
    ∧ ∀ id ∈ o'.writes, id ∉ o.reads ∧ id ∉ o.writes

namespace Plan

variable {plan plan' : Plan} {o o' : Operator}

/-- A bound operator of any kind settles. -/
theorem bind_settles (h : plan.bind handle b = .ok o b') :
    o.forward.Settles := by
  cases plan with
  | primitive name action input output =>
      obtain ⟨p, -, rfl⟩ := Step.map_eq_ok_iff.1 h
      exact p.forward_settles
  | split name input first second =>
      obtain ⟨s, -, rfl⟩ := Step.map_eq_ok_iff.1 h
      exact s.forward_settles
  | interleave name first second output =>
      obtain ⟨s, -, rfl⟩ := Step.map_eq_ok_iff.1 h
      exact s.forward_settles
  | sideBranch name input layers =>
      obtain ⟨s, hs, rfl⟩ := Step.map_eq_ok_iff.1 h
      exact (SideBranch.setup_built hs).settles
  | mainBranch name input layers =>
      obtain ⟨s, hs, rfl⟩ := Step.map_eq_ok_iff.1 h
      exact (MainBranch.setup_built hs).settles
  | block name input layers =>
      obtain ⟨s, hs, rfl⟩ := Step.map_eq_ok_iff.1 h
      exact (Block.setup_built hs).settles
  | stage number input layers =>
      obtain ⟨s, hs, rfl⟩ := Step.map_eq_ok_iff.1 h
      obtain ⟨after, hrow, -⟩ := Stage.setup_row hs
      exact (Stage.setupBlocks_built hrow).settles

/-- Operators that were bound to leave each other's tensors alone, on any
arena on which both come out: they end in the same arena in either order, and
each of them leaves the arena as it is when it runs once more. -/
theorem bind_independent {b₁ b₁' b₂ b₂' : Bench} {handle' : Handle}
    {a a₁ a₂ : Arena} (h : plan.bind handle b₁ = .ok o b₁')
    (h' : plan'.bind handle' b₂ = .ok o' b₂') (hapart : o.Apart o')
    (hrun : o.forward a = .ok () a₁) (hrun' : o'.forward a = .ok () a₂) :
    (∃ a', o'.forward a₁ = .ok () a' ∧ o.forward a₂ = .ok () a')
      ∧ o.forward a₁ = .ok () a₁ ∧ o'.forward a₂ = .ok () a₂ := by
  refine ⟨?_, bind_settles h a a₁ hrun, bind_settles h' a a₂ hrun'⟩
  have hunseen {id : TensorId} {p : Operator}
    (hid : id ∉ p.reads ∧ id ∉ p.writes) :
      id ∉ p.reads ++ p.writes :=
        fun hmem => (List.mem_append.1 hmem).elim hid.1 hid.2
  exact Step.commute o.forward_sees o.forward_writes o'.forward_sees
    o'.forward_writes
    (List.subset_append_right _ _) (List.subset_append_right _ _)
    (fun id hid => hunseen (hapart.1 id hid))
      (fun id hid => hunseen (hapart.2 id hid)) hrun hrun'

/-- A max pooling and a block, bound in one arena to one image. -/
theorem bind_independent_on_one_image :
    ∃ (layers : BlockLayers) (o o' : Operator) (b b' : Bench)
      (a₁ a₂ a' : Arena),
      bind ⟨.scalar⟩
        (.primitive "pool" (.maxPool (Window.square 3 2 1)) ⟨0⟩ ⟨1⟩)
          (Bench.ofArena (Arena.empty.grow [⟨2, 3, 3⟩, ⟨1, 2, 3⟩])) = .ok o b
        ∧ bind ⟨.scalar⟩ (.block "block" ⟨0⟩ layers) b = .ok o' b'
        ∧ o.forward b'.arena = .ok () a₁ ∧ o'.forward a₁ = .ok () a'
        ∧ o'.forward b'.arena = .ok () a₂ ∧ o.forward a₂ = .ok () a'
        ∧ o.forward a₁ = .ok () a₁ := by
  obtain ⟨layers, o, o', b, b', h, h', hreads, hreads', hsee, hwrite,
    hsee', hwrite'⟩ :
      ∃ (layers : BlockLayers) (o o' : Operator) (b b' : Bench),
        bind ⟨.scalar⟩
          (.primitive "pool" (.maxPool (Window.square 3 2 1)) ⟨0⟩ ⟨1⟩)
            (Bench.ofArena (Arena.empty.grow [⟨2, 3, 3⟩, ⟨1, 2, 3⟩])) = .ok o b
          ∧ bind ⟨.scalar⟩ (.block "block" ⟨0⟩ layers) b = .ok o' b'
          ∧ ¬o.ReadsOutput ∧ ¬o'.ReadsOutput ∧ o.reads = [⟨0⟩]
          ∧ o.writes = [⟨1⟩]
          ∧ o'.reads = [⟨0⟩, ⟨2⟩, ⟨0⟩, ⟨4⟩, ⟨5⟩, ⟨3⟩, ⟨6⟩]
          ∧ o'.writes = [⟨2⟩, ⟨3⟩, ⟨4⟩, ⟨5⟩, ⟨6⟩, ⟨7⟩] :=
    ⟨⟨4, 3, 2, some
      ⟨⟨3, 3, Window.square 3 2 1, .identity,
        Array.replicate 27 Single.one, none⟩,
      ⟨3, 2, Window.square 1 1 0, .relu, Array.replicate 6 Single.one, none⟩⟩,
      ⟨⟨3, 2, Window.square 1 1 0, .relu, Array.replicate 6 Single.one, none⟩,
        ⟨2, 2, Window.square 3 2 1, .identity,
          Array.replicate 18 Single.one, none⟩,
        ⟨2, 2, Window.square 1 1 0, .relu,
          Array.replicate 4 Single.one, none⟩⟩⟩,
      _, _, _, _, rfl, rfl, (fun h => by cases h.1), id, rfl, rfl, rfl, rfl⟩
  have hapart : o.Apart o' := by
    rw [Operator.Apart, hsee, hwrite, hsee', hwrite']
    decide
  have hsound : (Arena.empty.grow [⟨2, 3, 3⟩, ⟨1, 2, 3⟩]).Sound :=
    Arena.empty_sound.grows ⟨_, by decide, rfl⟩
  have hgrows := (bind_growsBy h').1.grows
  have hcovers : b'.arena.Covers b'.arena :=
    ((hsound.grows (bind_growsBy h).1.grows).grows hgrows).covers
  obtain ⟨a₁, hrun, -⟩ := forward_alike h (hcovers.of_grows hgrows) hreads
  obtain ⟨a₂, hrun', -⟩ := forward_alike h' hcovers hreads'
  obtain ⟨⟨a', hfirst, hsecond⟩, hagain, -⟩ :=
    bind_independent h h' hapart hrun hrun'
  exact ⟨layers, o, o', b, b', a₁, a₂, a', h, h', hrun, hfirst, hrun',
    hsecond, hagain⟩

end Plan

end FireNet
