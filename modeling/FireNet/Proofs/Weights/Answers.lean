/-
Sources that answer a request from what they have under its name alone: they
fill the buffer, or they refuse and give it back as it was. A load from such
a source ends as the list of its answers, in the order of the manifest,
does: with all of them, or with the first refusal.

So two sources make loads that end alike as soon as their answers are alike,
entry by entry.
-/
import FireNet.Proofs.Outcome
import FireNet.Proofs.Weights.Blank
import FireNet.Proofs.Weights.Loading

set_option autoImplicit false

namespace FireNet

variable {σ : Type} {s s' : σ} {j j' : Journal}

-- ================================================================ lists

section

variable {α β ε : Type} {f g : α → Except ε β} {l : List α}

/-- A list of outcomes fails with its first failure. -/
theorem exists_of_mapM_eq_error {e : ε} (h : l.mapM f = .error e) :
    ∃ before x after,
      l = before ++ x :: after ∧ (∀ y ∈ before, ∃ b, f y = .ok b)
      ∧ f x = .error e := by
  induction l with
  | nil => cases h
  | cons x rest ih =>
      rw [List.mapM_cons, Outcome.bind_eq_error_iff] at h
      rcases h with hx | ⟨b, hx, hlater⟩
      · exact ⟨[], x, rest, rfl, fun _ hy => absurd hy List.not_mem_nil, hx⟩
      · rcases Outcome.bind_eq_error_iff.1 hlater with hrest | ⟨_, _, hnone⟩
        · obtain ⟨before, y, after, hsplit, hbefore, hy⟩ := ih hrest
          refine ⟨x :: before, y, after, by
            rw [hsplit, List.cons_append], ?_, hy⟩
          rw [List.forall_mem_cons]
          exact ⟨⟨b, hx⟩, hbefore⟩
        · cases hnone

/-- All are answered when each one is. -/
theorem exists_mapM_eq_ok_iff :
    (∃ bs, l.mapM f = .ok bs) ↔ ∀ x ∈ l, ∃ b, f x = .ok b := by
  induction l with
  | nil => exact ⟨(fun _ _ hx => absurd hx List.not_mem_nil),
      fun _ => ⟨[], rfl⟩⟩
  | cons x rest ih =>
      rw [List.forall_mem_cons, ← ih]
      simp only [List.mapM_cons, Outcome.bind_eq_ok_iff, Outcome.pure_eq_ok_iff]
      constructor
      · intro hall
        obtain ⟨bs, b, hx, bs', hrest, -⟩ := hall
        exact ⟨⟨b, hx⟩, bs', hrest⟩
      · intro hall
        obtain ⟨⟨b, hx⟩, bs', hrest⟩ := hall
        exact ⟨b :: bs', b, hx, bs', hrest, rfl⟩

end

/-- Failures that name the same blob for the same kind of defect: one that
cannot be read, whatever the wording of the cause, or one of another length
with the same counts of bytes. -/
inductive Failure.Alike : Failure → Failure → Prop where
  | load (blob : String) (reason reason' : Reason) :
      Alike (.error (.load blob reason)) (.error (.load blob reason'))
  | blobSize (blob : String) (expected actual : Nat) :
      Alike (.error (.blobSize blob expected actual))
        (.error (.blobSize blob expected actual))

namespace Outcome

variable {α β : Type}

/-- The same value, or failures alike. -/
inductive Alike : Outcome α → Outcome α → Prop where
  | ok (a : α) : Alike (.ok a) (.ok a)
  | error {e e' : Failure} (h : e.Alike e') : Alike (.error e) (.error e')

namespace Alike

variable {x y : Outcome α} {f g : α → Outcome β}

/-- Values are alike when they are equal. -/
theorem ok_iff {a b : α} : Alike (.ok a) (.ok b) ↔ a = b := by
  constructor
  · intro h
    cases h
    rfl
  · intro h
    rw [h]
    exact .ok b

theorem eq_ok {a : α} (h : Alike x (.ok a)) : x = .ok a := by
  cases h
  rfl

/-- What goes on alike from alike outcomes is alike. -/
theorem bind (hxy : Alike x y) (hfg : ∀ a, Alike (f a) (g a)) :
    Alike (x >>= f) (y >>= g) := by
  cases hxy with
  | ok a => exact hfg a
  | error h => exact .error h

theorem map (f : α → β) (hxy : Alike x y) : Alike (x.map f) (y.map f) := by
  cases hxy with
  | ok a => exact .ok (f a)
  | error h => exact .error h

theorem mapM {l : List α} (hfg : ∀ a ∈ l, Alike (f a) (g a)) :
    Alike (l.mapM f) (l.mapM g) := by
  induction l with
  | nil => exact .ok []
  | cons a rest ih =>
      rw [List.forall_mem_cons] at hfg
      rw [List.mapM_cons, List.mapM_cons]
      exact hfg.1.bind fun b => (ih hfg.2).bind fun bs => .ok (b :: bs)

/-- What is alike under a function that tells the values apart is alike. -/
theorem of_map {f : α → β} (hxy : Alike (x.map f) (y.map f))
    (hinj : ∀ a b, x = .ok a → y = .ok b → f a = f b → a = b) : Alike x y := by
  cases x with
  | ok a =>
      cases y with
      | ok b =>
          rw [hinj a b rfl rfl (ok_iff.1 hxy)]
          exact .ok b
      | error e => cases hxy
  | error e =>
      cases y with
      | ok b => cases hxy
      | error e' =>
          cases hxy with
          | error h => exact .error h

end Alike

end Outcome

-- ============================================================== answers

/-- What is answered to a request for a name and a length. -/
abbrev Answers := (name : String) → (n : Nat) → Outcome (Vector Single n)

/-- The answer to the request of a blob. -/
def Answers.blob (answers : Answers) (entry : BlobKey × Nat) :
    Outcome (BlobKey × Array Single) :=
  (answers entry.1.name entry.2).map fun values => (entry.1, values.toArray)

/-- A buffer after its request was answered: filled, or as it was. -/
def fillWith {n : Nat} (answer : Outcome (Vector Single n))
    (buffer : Vector Single n) : Outcome Unit × Vector Single n :=
  match answer with
  | .ok values => (.ok (), values)
  | .error failure => (.error failure, buffer)

/-- The source answers every request, and its state stays. -/
def BlobSource.AnswersBy (source : BlobSource (StateM σ)) (s : σ)
    (answers : Answers) : Prop :=
  ∀ (name : String) {n : Nat} (buffer : Vector Single n) (j : Journal), ∃ j',
    Reporting.exec (source.fill name buffer) j s
      = (fillWith (answers name n) buffer, j', s)

/-- A fill that fails leaves the buffer as it was, whatever the state. -/
def BlobSource.KeepsRefused (source : BlobSource (StateM σ)) : Prop :=
  ∀ (name : String) {n : Nat} (buffer left : Vector Single
    n) (j j' : Journal) (s s' : σ) (failure : Failure),
    Reporting.exec (source.fill name buffer) j s
      = ((.error failure, left), j', s') → left = buffer

/-- A source that fills by its answers keeps what it was refused. -/
theorem BlobSource.KeepsRefused.of_fillWith {source : BlobSource (StateM σ)}
    (h : ∀ (name : String) (n : Nat) (buffer : Vector Single
      n) (j : Journal) (s : σ), ∃ answer rest,
    Reporting.exec (source.fill name buffer) j s
      = (fillWith answer buffer, rest)) :
    source.KeepsRefused := by
  intro name n buffer left j j' s s' failure hfill
  obtain ⟨answer, rest, hanswer⟩ := h name n buffer j s
  rw [hanswer] at hfill
  cases answer with
  | ok values => cases hfill
  | error failure' =>
      cases hfill
      rfl

namespace BlobSource.AnswersBy

variable {source : BlobSource (StateM σ)} {answers : Answers}

/-- A request leaves the state, and its answer is the one of the source. -/
theorem exists_requestListed (h : source.AnswersBy s answers) (key : BlobKey)
    (old : Array Single) (j : Journal) :
    ∃ j', (source.requestListed (key, old)).exec j s
      = (answers.blob (key, old.size), j', s) := by
  obtain ⟨j', hfill⟩ := h key.name old.toVector
    (j.push ⟨.debug, s!"loading {key.name} ({old.size} floats)"⟩)
  refine ⟨j', ?_⟩
  unfold Answers.blob
  cases hanswer : answers key.name old.size with
  | ok values =>
      have hask : source.ask key old j s
          = (⟨key.name, old.size, old.toVector, .ok (), values⟩, j', s) := by
        rw [BlobSource.ask, hfill, hanswer]
        rfl
      exact BlobSource.exec_requestListed hask
  | error failure =>
      have hask : source.ask key old j s
          = (⟨key.name, old.size, old.toVector, .error failure, old.toVector⟩,
            j', s) := by
        rw [BlobSource.ask, hfill, hanswer]
        rfl
      exact BlobSource.exec_requestListed hask

theorem exists_requests (h : source.AnswersBy s answers)
    (blobs : List (BlobKey × Array Single)) (j : Journal) :
    ∃ j', (blobs.mapM source.requestListed).exec j s
      = ((blobs.map fun (key, old) => (key, old.size)).mapM answers.blob,
        j', s) := by
  induction blobs generalizing j with
  | nil => exact ⟨j, rfl⟩
  | cons blob rest ih =>
      obtain ⟨key, old⟩ := blob
      obtain ⟨j₁, hrequest⟩ := h.exists_requestListed key old j
      rw [List.map_cons, List.mapM_cons, List.mapM_cons]
      cases hanswer : answers.blob (key, old.size) with
      | error failure =>
          rw [hanswer] at hrequest
          exact ⟨j₁, Reported.exec_bind_error hrequest⟩
      | ok filled =>
          rw [hanswer] at hrequest
          obtain ⟨j₂, hrest⟩ := ih j₁
          exact ⟨j₂, (Reported.exec_bind_ok hrequest).trans
            (Reported.exec_bind_pure hrest)⟩

/-- A load ends as its answers do. -/
theorem exists_load (h : source.AnswersBy s answers) (p : Parameters)
    (j : Journal) :
    ∃ outcome j', (p.load source).exec j s = (outcome, j', s)
      ∧ outcome.map Parameters.allBlobs = p.manifest.mapM answers.blob
      ∧ ∀ loaded, outcome = .ok loaded → loaded.blank = p.blank := by
  obtain ⟨j₁, hrequests⟩ := h.exists_requests p.allBlobs j
  rcases htraverse : (p.traverse source.requestLayer).exec j
    s with ⟨result, j', s'⟩
  rw [← Parameters.allBlobs_traverse, Reported.exec_bind_pure htraverse]
    at hrequests
  injection hrequests with hblobs hrest
  injection hrest with hjournal hstate
  subst hstate
  cases result with
  | error failure =>
      exact ⟨.error failure, j', Reported.exec_bind_error htraverse, hblobs,
        fun _ hloaded => by cases hloaded⟩
  | ok loaded =>
      have hload : (p.load source).exec j s' = (.ok loaded,
          j'.push loaded.loadedRecord, s') := by
        rw [Parameters.load, Reported.exec_bind_ok htraverse,
          Reported.exec_bind_ok Reported.exec_report, Reported.exec_pure]
        rfl
      refine ⟨.ok loaded, _, hload, hblobs, ?_⟩
      intro _ hloaded
      cases hloaded
      exact Parameters.blank_of_load hload

/-- Sources whose answers are alike load alike, also where their states have
nothing in common. -/
theorem alike_load {τ : Type} {t : τ} {other : BlobSource (StateM τ)}
    {others : Answers} (h : source.AnswersBy s answers)
    (hother : other.AnswersBy t others) {p : Parameters}
    (halike : ∀ entry ∈ p.manifest,
      Outcome.Alike (answers.blob entry) (others.blob entry))
    (j k : Journal) :
    Outcome.Alike ((p.load source).exec j s).1 ((p.load other).exec k t).1 := by
  obtain ⟨outcome, j', hload, hblobs, hblank⟩ := h.exists_load p j
  obtain ⟨outcome', k', hload', hblobs', hblank'⟩ := hother.exists_load p k
  rw [hload, hload']
  refine Outcome.Alike.of_map (f := Parameters.allBlobs) ?_ ?_
  · rw [hblobs, hblobs']
    exact Outcome.Alike.mapM halike
  · intro loaded loaded' hok hok' hsame
    exact Parameters.ext_blank
      ((hblank loaded hok).trans (hblank' loaded' hok').symm)
      (congrArg (List.map Prod.snd) hsame)

end BlobSource.AnswersBy

end FireNet
