/-
How many claims a set-up leaves open. Its events are claims, releases and
reports; counted one after another they never release what was not claimed,
and in the end one claim is open for each primitive that was bound, each
with the handle that was given, or none when the set-up failed.

A set-up is followed along its steps (`Tallies`): from some open claims it
comes to others, with one condition on the result and one on a failure.
Inside a balanced set-up a failure may leave claims open, because they are
released at its end; outside, every step that can fail comes before the
first claim.
-/
import FireNet.Operator.Plan
import FireNet.Model.Basic
import FireNet.Proofs.Binding

set_option autoImplicit false

namespace FireNet

-- ============================================================== balance

namespace Event

/-- The open claims after some events, given those before; `none` when a
release finds no claim. -/
def balance : Nat → List Event → Option Nat
  | n, [] => some n
  | n, .note _ :: rest => balance n rest
  | n, .claim :: rest => balance (n + 1) rest
  | 0, .release :: _ => none
  | n + 1, .release :: rest => balance n rest

/-- Events are counted in order, so a list can be counted in parts. -/
theorem balance_append {n : Nat} {xs ys : List Event} :
    balance n (xs ++ ys) = (balance n xs).bind fun m => balance m ys := by
  induction xs generalizing n with
  | nil => rfl
  | cons e rest ih =>
      cases e with
      | note r => exact ih
      | claim => exact ih
      | release =>
          cases n with
          | zero => rfl
          | succ n => exact ih

/-- Claims that were open before stay open. -/
theorem balance_add {n m : Nat} {xs : List Event} (k : Nat)
    (h : balance n xs = some m) :
    balance (k + n) xs = some (k + m) := by
  induction xs generalizing n with
  | nil =>
      cases h
      rfl
  | cons e rest ih =>
      cases e with
      | note r => exact ih h
      | claim => exact ih (n := n + 1) h
      | release =>
          cases n with
          | zero => cases h
          | succ n => exact ih (n := n) h

/-- As many releases as there are claims close them all. -/
theorem balance_releases {n : Nat} (k : Nat) :
    balance (n + k) (List.replicate k .release) = some n := by
  induction k with
  | zero => rfl
  | succ k ih => exact ih

/-- The claims that a balanced set-up counts are those that are open. -/
theorem openClaims_eq {events : Array Event} {m : Nat}
    (h : balance 0 events.toList = some m) :
    Bench.openClaims events = m := by
  rw [Bench.openClaims, ← Array.foldl_toList]
  generalize events.toList = xs at h ⊢
  generalize 0 = n at h ⊢
  induction xs generalizing n with
  | nil =>
      cases h
      rfl
  | cons e rest ih =>
      cases e with
      | note r => exact ih n h
      | claim => exact ih (n + 1) h
      | release =>
          cases n with
          | zero => cases h
          | succ n => exact ih n h

end Event

-- ============================================================== tallies

/-- From `n` open claims a step comes to others, with `Q` of the result and
of those, or with `E` of those when it fails. -/
structure Tallies {α : Type} (step : Binding α) (n : Nat) (Q : α → Nat → Prop)
    (E : Nat → Prop) : Prop where
  ok : ∀ (b b' : Bench) (x : α), step b = .ok x b' →
    ∃ added m, b'.events.toList = b.events.toList ++ added
      ∧ Event.balance n added = some m
      ∧ Q x m
  error : ∀ (b b' : Bench) (e : Failure), step b = .error e b' →
    ∃ added m, b'.events.toList = b.events.toList ++ added
      ∧ Event.balance n added = some m
      ∧ E m

/-- A step that tells nothing. -/
def Binding.Quiet {α : Type} (step : Binding α) : Prop :=
  ∀ b, (step.runFrom b).2.events = b.events

namespace Binding

variable {α : Type}

theorem quiet_ofOutcome {outcome : Outcome α} :
    Quiet (Step.ofOutcome outcome) := by
  intro b
  cases outcome with
  | error e => rfl
  | ok x => rfl

theorem quiet_shapeOf {id : TensorId} : Quiet (shapeOf id) := by
  intro b
  show ((Step.ofOption (b.arena.shape? id) : Binding Shape).runFrom b).2.events
    = _
  exact quiet_ofOutcome b

theorem quiet_alloc {s : Shape} : Quiet (alloc s) := by
  intro b
  unfold alloc onArena Step.runFrom
  cases h : Arena.alloc s b.arena with
  | error e a => simp only [h]
  | ok id a => simp only [h]

theorem quiet_get : Quiet (get : Binding Bench) := fun _ => rfl

end Binding

namespace Tallies

variable {α β : Type} {step : Binding α} {n : Nat} {Q : α → Nat → Prop}
  {R : β → Nat → Prop} {E : Nat → Prop}

/-- A step that does nothing leaves the claims as they are. -/
theorem pure {x : α} (h : Q x n) : Tallies (Pure.pure x) n Q E := by
  constructor
  · intro b b' y hstep
    cases hstep
    exact ⟨[], n, (List.append_nil _).symm, rfl, h⟩
  · intro b b' e hstep
    cases hstep

theorem refuse {e : Error} (h : E n) :
    Tallies (FireNet.refuse e : Binding α) n Q E := by
  constructor
  · intro b b' y hstep
    cases hstep
  · intro b b' e hstep
    cases hstep
    exact ⟨[], n, (List.append_nil _).symm, rfl, h⟩

/-- A claim opens one more. -/
theorem claim : Tallies (Binding.emit .claim) n (fun _ m => m = n + 1) E := by
  constructor
  · intro b b' y hstep
    cases hstep
    exact ⟨[.claim], n + 1, Array.toList_push, rfl, rfl⟩
  · intro b b' e hstep
    cases hstep

theorem note {level : Level} {text : String} :
    Tallies (Binding.note level text) n (fun _ m => m = n) E := by
  constructor
  · intro b b' y hstep
    cases hstep
    exact ⟨[.note ⟨level, text⟩], n, Array.toList_push, rfl, rfl⟩
  · intro b b' e hstep
    cases hstep

/-- A step that tells nothing opens and closes none. -/
theorem quiet (h : Binding.Quiet step) (hE : E n) :
    Tallies step n (fun _ m => m = n) E := by
  constructor
  · intro b b' y hstep
    have hevents := h b
    rw [Step.runFrom_eq_ok_iff.2 hstep] at hevents
    exact ⟨[], n, by rw [hevents, List.append_nil], rfl, rfl⟩
  · intro b b' e hstep
    have hevents := h b
    rw [Step.runFrom_eq_error_iff.2 hstep] at hevents
    exact ⟨[], n, by rw [hevents, List.append_nil], rfl, hE⟩

/-- One step after another. -/
theorem bind {f : α → Binding β} (h₁ : Tallies step n Q E)
    (h₂ : ∀ x m, Q x m → Tallies (f x) m R E) : Tallies (step >>= f) n R E := by
  have hjoin : ∀ {b b₁ b₂ : Bench} {xs ys : List Event} {m k : Nat},
      b₁.events.toList = b.events.toList ++ xs → Event.balance n xs = some m →
      b₂.events.toList = b₁.events.toList ++ ys → Event.balance m ys = some k →
      b₂.events.toList = b.events.toList ++ (xs ++ ys)
        ∧ Event.balance n (xs ++ ys) = some k := by
    intro b b₁ b₂ xs ys m k hxs hm hys hk
    rw [Event.balance_append, hm, hys, hxs, List.append_assoc]
    exact ⟨rfl, hk⟩
  constructor
  · intro b b' y hstep
    obtain ⟨x, b₁, hx, hy⟩ := Step.bind_eq_ok_iff.1 hstep
    obtain ⟨xs, m, hxs, hm, hQ⟩ := h₁.ok b b₁ x hx
    obtain ⟨ys, k, hys, hk, hR⟩ := (h₂ x m hQ).ok b₁ b' y hy
    obtain ⟨hall, hbalance⟩ := hjoin hxs hm hys hk
    exact ⟨xs ++ ys, k, hall, hbalance, hR⟩
  · intro b b' e hstep
    cases hx : step b with
    | error e₁ b₁ =>
        rw [Step.bind_of_error hx] at hstep
        cases hstep
        exact h₁.error b _ _ hx
    | ok x b₁ =>
        rw [Step.bind_of_ok hx] at hstep
        obtain ⟨xs, m, hxs, hm, hQ⟩ := h₁.ok b b₁ x hx
        obtain ⟨ys, k, hys, hk, hE⟩ := (h₂ x m hQ).error b₁ b' e hstep
        obtain ⟨hall, hbalance⟩ := hjoin hxs hm hys hk
        exact ⟨xs ++ ys, k, hall, hbalance, hE⟩

/-- It can stand in front of any other step. -/
theorem bind_quiet {f : α → Binding β} (h : Binding.Quiet step) (hE : E n)
    (h₂ : ∀ x, Tallies (f x) n R E) : Tallies (step >>= f) n R E :=
  (quiet h hE).bind fun x _ heq => heq ▸ h₂ x

theorem bind_note {level : Level} {text : String} {f : Unit → Binding β}
    (h : Tallies (f ()) n R E) :
    Tallies (Binding.note level text >>= f) n R E :=
  note.bind fun _ _ heq => heq ▸ h

theorem bind_refuse {e : Error} {f : α → Binding β} (hE : E n) :
    Tallies (FireNet.refuse e >>= f) n R E :=
  (refuse (Q := fun _ _ => False) hE).bind fun _ _ hfalse => hfalse.elim

/-- A check that refuses comes before what it guards. -/
theorem guard {c : Prop} [Decidable c] {e : Error} {f : Unit → Binding α}
    (hE : E n) (h : Tallies step n Q E) :
    Tallies (if c then FireNet.refuse e >>= f else step) n Q E := by
  by_cases hc : c
  · rw [if_pos hc]
    exact bind_refuse hE
  · rw [if_neg hc]
    exact h

/-- A condition may be replaced by a weaker one. -/
theorem weaken {Q' : α → Nat → Prop} (h : Tallies step n Q E)
    (hQ : ∀ x m, Q x m → Q' x m) :
    Tallies step n Q' E := by
  constructor
  · intro b b' x hstep
    obtain ⟨added, m, hadded, hm, hx⟩ := h.ok b b' x hstep
    exact ⟨added, m, hadded, hm, hQ x m hx⟩
  · exact h.error

theorem map {f : α → β} (h : Tallies step n (fun x m => R (f x) m) E) :
    Tallies (f <$> step) n R E := by
  rw [← bind_pure_comp]
  exact h.bind fun _ _ hx => .pure hx

/-- A balanced set-up adds to the open claims those of the set-up inside, or
none when it fails. -/
theorem balanced (h : Tallies step 0 Q fun _ => True) (hE : E n) :
    Tallies (Binding.balanced step) n
      (fun x m => ∃ k, Q x k ∧ m = n + k) E := by
  constructor
  · intro b b' x hstep
    obtain ⟨after, hafter, rfl⟩ := Binding.balanced_eq_ok_iff.1 hstep
    obtain ⟨added, k, hadded, hk, hQ⟩ := h.ok _ _ _ hafter
    refine ⟨added, n + k, ?_, Event.balance_add n hk, k, hQ, rfl⟩
    rw [Array.toList_append, hadded]
    rfl
  · intro b b' e hstep
    unfold Binding.balanced at hstep
    cases hafter : step ⟨b.arena, #[]⟩ with
    | ok x after =>
        rw [hafter] at hstep
        cases hstep
    | error e' after =>
        rw [hafter] at hstep
        cases hstep
        obtain ⟨added, k, hadded, hk, -⟩ := h.error _ _ _ hafter
        have hevents : after.events.toList = added := hadded
        refine ⟨added ++ List.replicate k .release, n, ?_, ?_, hE⟩
        · rw [Array.toList_append, Array.toList_append, hevents,
            Event.openClaims_eq (hevents ▸ hk), Array.toList_replicate,
            List.append_assoc]
        · have hadd : Event.balance n added = some (n + k) :=
            Event.balance_add n hk
          rw [Event.balance_append, hadd]
          exact Event.balance_releases k

end Tallies

-- ============================================================== set-ups

/-- One more claim is open for each primitive, and each has the handle. -/
def Claimed (handle : Handle) (ps : List Primitive) (n m : Nat) : Prop :=
  m = n + ps.length ∧ ∀ p ∈ ps, p.handle = handle

namespace Claimed

variable {handle : Handle} {ps qs : List Primitive} {n m k : Nat}

theorem nil : Claimed handle [] n n := ⟨rfl, fun _ h => by cases h⟩

/-- What is claimed for two lists in turn is claimed for both. -/
theorem append (h : Claimed handle ps n m) (h' : Claimed handle qs m k) :
    Claimed handle (ps ++ qs) n k := by
  obtain ⟨rfl, hps⟩ := h
  obtain ⟨rfl, hqs⟩ := h'
  refine ⟨by rw [List.length_append, Nat.add_assoc], fun p hp => ?_⟩
  rcases List.mem_append.1 hp with hp | hp
  · exact hps p hp
  · exact hqs p hp

end Claimed

variable {E : Nat → Prop} {n : Nat} {name : String} {handle : Handle}

/-- A balanced set-up counts its own primitives on top of what was open. -/
theorem Tallies.balanced_claimed {α : Type} {step : Binding α}
    {primitives : α → List Primitive}
    (h : Tallies step 0 (fun x m => Claimed handle (primitives x) 0 m) fun _ =>
      True)
    (hE : E n) :
    Tallies (Binding.balanced step) n
      (fun x m => Claimed handle (primitives x) n m) E := by
  refine (h.balanced hE).weaken fun x m hx => ?_
  obtain ⟨k, ⟨hk, hhandles⟩, rfl⟩ := hx
  exact ⟨by rw [hk, Nat.zero_add], hhandles⟩

/-- A primitive claims once, after its checks. -/
theorem Primitive.setup_tallies {action : Action} {input output : TensorId}
    (hE : E n) :
    Tallies (Primitive.setup name action input output handle) n
      (fun p m => Claimed handle [p] n m) E := by
  refine .bind_quiet Binding.quiet_shapeOf hE fun inShape => ?_
  refine .bind_quiet Binding.quiet_shapeOf hE fun outShape => ?_
  refine .bind_quiet Binding.quiet_ofOutcome hE fun _ => .bind_note ?_
  refine .bind .claim fun _ m hm => .pure ⟨hm, fun p hp => ?_⟩
  rw [List.mem_singleton.1 hp]

/-- Splits and interleaves have no handle, so they claim nothing. -/
theorem Split.setup_tallies {input first second : TensorId} (hE : E n) :
    Tallies (Split.setup name input first second) n (fun _ m => m = n) E := by
  refine .bind_quiet Binding.quiet_shapeOf hE fun inShape => ?_
  refine .bind_quiet Binding.quiet_shapeOf hE fun a => ?_
  refine .bind_quiet Binding.quiet_shapeOf hE fun b => ?_
  exact .bind_quiet Binding.quiet_ofOutcome hE fun _ => .bind_note (.pure rfl)

theorem Interleave.setup_tallies {first second output : TensorId} (hE : E n) :
    Tallies (Interleave.setup name first second output) n
      (fun _ m => m = n) E := by
  refine .bind_quiet Binding.quiet_shapeOf hE fun a => ?_
  refine .bind_quiet Binding.quiet_shapeOf hE fun b => ?_
  refine .bind_quiet Binding.quiet_shapeOf hE fun outShape => ?_
  exact .bind_quiet Binding.quiet_ofOutcome hE fun _ => .bind_note (.pure rfl)

/-- A convolution claims once, its allocation nothing. -/
theorem Binding.convolve_tallies {kind : Layer → Action} {layer : Layer}
    {input : TensorId} (hE : E n) :
    Tallies (Binding.convolve name kind layer input handle) n
      (fun p m => Claimed handle [p] n m) E := by
  refine .bind_quiet Binding.quiet_shapeOf hE fun image => ?_
  refine .bind_quiet Binding.quiet_ofOutcome hE fun extent => ?_
  exact .bind_quiet Binding.quiet_alloc hE fun output =>
    Primitive.setup_tallies hE

/-- A side branch claims for each of its two primitives. -/
theorem SideBranch.setup_tallies {input : TensorId} {layers : SideLayers}
    (hE : E n) :
    Tallies (SideBranch.setup name input layers handle) n
      (fun b m => Claimed handle b.primitives n m) E := by
  refine .balanced_claimed ?_ hE
  refine .bind (Binding.convolve_tallies trivial) fun depthwise m hm => ?_
  refine .bind (Binding.convolve_tallies trivial) fun pointwise k hk => ?_
  exact .pure (hm.append hk)

/-- A main branch claims for each of its three. -/
theorem MainBranch.setup_tallies {input : TensorId} {layers : MainLayers}
    (hE : E n) :
    Tallies (MainBranch.setup name input layers handle) n
      (fun b m => Claimed handle b.primitives n m) E := by
  refine .balanced_claimed ?_ hE
  refine .bind (Binding.convolve_tallies trivial) fun reduce m hm => ?_
  refine .bind (Binding.convolve_tallies trivial) fun depthwise k hk => ?_
  refine .bind (Binding.convolve_tallies trivial) fun expand l hl => ?_
  exact .pure ((hm.append hk).append hl)

/-- Either way through a block claims for the primitives on it. Inside, a
failure may leave claims open. -/
theorem Block.setupPath_tallies {input : TensorId} {inShape : Shape}
    {layers : BlockLayers} :
    Tallies (Block.setupPath name input inShape layers handle) n
      (fun path m => Claimed handle path.primitives n m) fun _ => True := by
  unfold Block.setupPath
  split
  · exact .refuse trivial
  · refine .guard trivial ?_
    refine .bind_quiet Binding.quiet_alloc trivial fun a => ?_
    refine .bind_quiet Binding.quiet_alloc trivial fun b => ?_
    refine .bind (Split.setup_tallies trivial) fun split _ heq => ?_
    obtain rfl := heq
    exact .bind (MainBranch.setup_tallies trivial) fun main k hk => .pure hk
  · exact .refuse trivial
  · exact .refuse trivial
  · refine .bind (SideBranch.setup_tallies trivial) fun side m hm => ?_
    refine .bind (MainBranch.setup_tallies trivial) fun main k hk => ?_
    exact .pure (hm.append hk)

/-- A block as a whole releases them when it fails. -/
theorem Block.setup_tallies {input : TensorId} {layers : BlockLayers}
    (hE : E n) :
    Tallies (Block.setup name input layers handle) n
      (fun b m => Claimed handle b.primitives n m) E := by
  refine .balanced_claimed ?_ hE
  refine .bind_quiet Binding.quiet_shapeOf trivial fun inShape => ?_
  refine .guard trivial (.guard trivial ?_)
  refine .bind Block.setupPath_tallies fun path m hm => ?_
  refine .bind_quiet Binding.quiet_shapeOf trivial fun half => ?_
  refine .bind_quiet Binding.quiet_alloc trivial fun output => ?_
  refine .bind (Interleave.setup_tallies trivial) fun shuffle _ heq => ?_
  obtain rfl := heq
  exact .bind_note (.pure hm)

/-- Blocks in a row claim for the primitives of them all. -/
theorem Stage.setupBlocks_tallies {layers : List BlockLayers} {index : Nat}
    {input : TensorId} :
    Tallies (Stage.setupBlocks name handle index input layers) n
      (fun blocks m => Claimed handle (blocks.flatMap Block.primitives) n m)
        fun _ => True := by
  induction layers generalizing index input n with
  | nil => exact .pure .nil
  | cons first rest ih =>
      refine .bind (Block.setup_tallies trivial) fun block m hm => ?_
      refine .bind ih fun later k hk => .pure ?_
      rw [List.flatMap_cons]
      exact hm.append hk

/-- A stage claims for its blocks, or for none. -/
theorem Stage.setup_tallies {number : Nat} {input : TensorId}
    {layers : StageLayers} (hE : E n) :
    Tallies (Stage.setup number input layers handle) n
      (fun s m => Claimed handle s.primitives n m) E := by
  refine .balanced_claimed ?_ hE
  dsimp only
  split
  · exact .refuse trivial
  · refine .guard trivial ?_
    split
    · exact .bind_refuse trivial
    · refine .bind (Block.setup_tallies trivial) fun head m hm => ?_
      exact .bind Stage.setupBlocks_tallies fun tail k hk =>
        .pure (hm.append hk)

/-- Every plan that is bound opens a claim for each of its primitives; one
that fails opens none. -/
theorem Plan.bind_tallies (plan : Plan) (hE : E n) :
    Tallies (plan.bind handle) n (fun o m => Claimed handle o.primitives n m)
      E := by
  cases plan with
  | primitive name action input output =>
      exact .map (Primitive.setup_tallies hE)
  | split name input first second =>
      exact .map ((Split.setup_tallies hE).weaken fun _ _ heq => heq ▸ .nil)
  | interleave name first second output =>
      exact .map ((Interleave.setup_tallies hE).weaken fun _ _ heq => heq
        ▸ .nil)
  | sideBranch name input layers => exact .map (SideBranch.setup_tallies hE)
  | mainBranch name input layers => exact .map (MainBranch.setup_tallies hE)
  | block name input layers => exact .map (Block.setup_tallies hE)
  | stage number input layers => exact .map (Stage.setup_tallies hE)

-- ============================================================= networks

/-- Stages in a row claim for the blocks of them all. -/
theorem Network.setupStages_tallies {layers : List StageLayers} {number : Nat}
    {input : TensorId} :
    Tallies (Network.setupStages handle number input layers) n
      (fun bound m => Claimed handle (bound.1.flatMap Stage.primitives) n m)
        fun _ => True := by
  induction layers generalizing number input n with
  | nil => exact .pure .nil
  | cons first rest ih =>
      refine .bind (Stage.setup_tallies trivial) fun stage m hm => ?_
      refine .bind ih fun later k hk => .pure ?_
      rw [List.flatMap_cons]
      exact hm.append hk

/-- A network has one claim of its own besides those of its primitives. -/
theorem Network.setup_tallies {p : Parameters} {inShape : Shape} (hE : E n) :
    Tallies (Network.setup p inShape handle) n
      (fun network m => network.handle = handle
        ∧ ∃ k, Claimed handle network.primitives n k ∧ m = k + 1) E := by
  have hall : Tallies (Network.setup p inShape handle) n
      (fun network m => ∃ l, (network.handle = handle
        ∧ ∃ k, Claimed handle network.primitives 0 k ∧ l = k + 1) ∧ m = n + l)
          E := by
    refine .balanced ?_ hE
    refine .bind_quiet Binding.quiet_alloc trivial fun input => ?_
    refine .bind (Binding.convolve_tallies trivial) fun stem m₁ h₁ => ?_
    refine .bind_quiet Binding.quiet_shapeOf trivial fun stemShape => ?_
    refine .bind_quiet Binding.quiet_ofOutcome trivial fun extent => ?_
    refine .bind_quiet Binding.quiet_alloc trivial fun pooled => ?_
    refine .bind (Primitive.setup_tallies trivial) fun pool m₂ h₂ => ?_
    refine .bind Network.setupStages_tallies fun bound m₃ h₃ => ?_
    refine .bind_quiet Binding.quiet_shapeOf trivial fun lastShape => ?_
    refine .bind_quiet Binding.quiet_alloc trivial fun headOut => ?_
    refine .bind (Primitive.setup_tallies trivial) fun head m₄ h₄ => ?_
    refine .bind_quiet Binding.quiet_alloc trivial fun meanOut => ?_
    refine .bind (Primitive.setup_tallies trivial) fun mean m₅ h₅ => ?_
    refine .bind_quiet Binding.quiet_alloc trivial fun scoreOut => ?_
    refine .bind (Primitive.setup_tallies trivial) fun classifier m₆ h₆ => ?_
    refine .bind_quiet Binding.quiet_get trivial fun bench => .bind_note ?_
    refine .bind .claim fun _ m₇ h₇ => .pure ⟨rfl, m₆, ?_, h₇⟩
    exact ((h₁.append h₂).append h₃).append ((h₄.append h₅).append h₆)
  refine hall.weaken fun network m hm => ?_
  obtain ⟨_, ⟨hhandle, k, ⟨hk, hprimitives⟩, rfl⟩, rfl⟩ := hm
  exact ⟨hhandle, n + k, ⟨by rw [hk, Nat.zero_add], hprimitives⟩, rfl⟩

/-- A network that was bound keeps the handle that it was given. -/
theorem Network.handle_of_setup {p : Parameters} {inShape : Shape}
    {b b' : Bench} {network : Network}
    (h : Network.setup p inShape handle b = .ok network b') :
    network.handle = handle := by
  obtain ⟨_, _, -, -, hhandle, -⟩ :=
    (Network.setup_tallies (n := 0) (E := fun _ => True) trivial).ok b
      b' network h
  exact hhandle

end FireNet
