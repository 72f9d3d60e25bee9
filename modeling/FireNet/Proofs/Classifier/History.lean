/-
Classifiers answer by their last successful set-up alone. A history is any
list of set-ups and frames given to one classifier, each in a world of its
own: between two calls the files, the environment and the engine may have
become anything, by these calls or by others.

What a set-up installs is read off its own world: the weights that it read,
its settings, and the backend that the engine gave it. The invariant
(`Holds`) says that the classifier has a pipeline ready for what was
installed last, or none when nothing was; one lemma says what a call
preserves, and an induction what a history does. A set-up that fails, in
whatever way, installs nothing, so it does not show in any later answer,
and neither does a frame.
-/
import FireNet.Proofs.Classifier.Setup

set_option autoImplicit false

namespace FireNet

variable {σ : Type} [Disk (StateM σ)]

namespace Classifier

/-- A set-up reads the weights and then builds anew. -/
theorem setup_eq (c : Classifier) (s : Settings) :
    (c.setup s : Hosted (StateM σ) Classifier)
      = s.readWeights >>= fun p => c.rebuild p s := by
  unfold setup Settings.readWeights
  simp only [bind_assoc]

/-- A set-up gives what its settings build in its world, whatever the
classifier holds. -/
theorem exec_setup (c : Classifier) (s : Settings) (w : World σ) :
    (Hosted.exec (c.setup s) w).1
      = (Hosted.exec s.build w).1.map fun built => ⟨some built.2⟩ := by
  rw [setup_eq]
  unfold Settings.build
  rw [Hosted.exec_bind, Hosted.exec_bind]
  rcases Hosted.exec s.readWeights w with ⟨outcome, w₁⟩
  cases outcome with
  | error e => rfl
  | ok p =>
      show (Hosted.exec (c.rebuild p s) w₁).1 = _
      unfold rebuild
      rw [Hosted.exec_bind]
      show _ = (Hosted.exec (Pipeline.setup p s >>= fun pl => pure (p, pl))
        w₁).1.map _
      rw [Hosted.exec_bind]
      rcases Hosted.exec (Pipeline.setup p s) w₁ with ⟨outcome, w₂⟩
      cases outcome with
      | error e => rfl
      | ok pl => rfl

end Classifier

-- ============================================================== history

/-- What is asked of a classifier. -/
inductive Call where
  | setup (s : Settings)
  | process (frame : Tensor UInt8)

/-- A call with the world that it meets. -/
structure Visit (σ : Type) where
  world : World σ
  call : Call

/-- What a call is answered with. -/
inductive Reply where
  | setUp (outcome : Outcome Unit)
  | scored (outcome : Outcome Single)

/-- What a set-up that succeeds leaves to answer by: the weights that it
read, its settings, and the backend that it computes on. -/
structure Installed where
  parameters : Parameters
  settings : Settings
  backend : Backend

/-- What a frame is answered with by what was installed last. -/
def classifyBy (installed : Option Installed) (frame : Tensor UInt8) :
    Outcome Single :=
  match installed with
  | none => .error (.error (.config "classifier" .notReady))
  | some i => i.parameters.classify i.settings i.backend frame

namespace Visit

/-- What a call installs: a set-up that succeeds in its world, the weights
that it read there, its settings, and the backend of its pipeline. -/
def installs (v : Visit σ) : Option Installed :=
  match v.call with
  | .setup s =>
    match (Hosted.exec s.build v.world).1 with
    | .ok (p, pl) => some ⟨p, s, pl.backend⟩
    | .error _ => none
  | .process _ => none

/-- What a call is to be answered with: a set-up by its settings and its
world, a frame by what was installed last. -/
def reply (installed : Option Installed) (v : Visit σ) : Reply :=
  match v.call with
  | .setup s => .setUp ((Hosted.exec s.build v.world).1.map fun _ => ())
  | .process frame => .scored (classifyBy installed frame)

/-- What the last successful set-up of a history installed. -/
def lastInstalled (history : List (Visit σ)) : Option Installed :=
  history.reverse.findSome? installs

/-- A later call decides what is installed, if it installs anything. -/
theorem lastInstalled_concat (before : List (Visit σ)) (v : Visit σ) :
    lastInstalled (before ++ [v]) = v.installs.or (lastInstalled before) := by
  cases h : v.installs with
  | none => simp [lastInstalled, h]
  | some i => simp [lastInstalled, h]

theorem lastInstalled_cons (v : Visit σ) (later : List (Visit σ)) :
    lastInstalled (v :: later) = (lastInstalled later).or v.installs := by
  simp [lastInstalled]

/-- The backend that a set-up installs is the one that the engine runs on in
its world, or else the one that the preference leads to on that machine. -/
theorem backend_of_installs {v : Visit σ} {i : Installed}
    (h : v.installs = some i) :
    ∃ preference,
      Preference.fromVariable v.world.host.environment.backend
        i.settings.backend
        = .ok preference
      ∧ i.backend
        = v.world.host.engine.backend.getD
          (preference.backend v.world.host.engine.offered) := by
  obtain ⟨w, call⟩ := v
  cases call with
  | setup s =>
      simp only [installs] at h
      cases hbuild : (Hosted.exec s.build w).1 with
      | error e =>
          rw [hbuild] at h
          cases h
      | ok built =>
          rw [hbuild] at h
          cases h
          exact Settings.backend_of_build hbuild
  | process frame => cases h

end Visit

namespace Classifier

/-- One call of a classifier that someone holds: a set-up that fails gives
no other one. -/
def receive (c : Classifier) (v : Visit σ) : Reply × Classifier :=
  match v.call with
  | .setup s =>
    match (Hosted.exec (c.setup s) v.world).1 with
    | .ok c' => (.setUp (.ok ()), c')
    | .error e => (.setUp (.error e), c)
  | .process frame =>
    let (outcome, c') := (Classifier.process frame).runFrom c
    (.scored outcome, c')

/-- The answers to a history. -/
def serve : Classifier → List (Visit σ) → List Reply
  | _, [] => []
  | c, v :: rest => (c.receive v).1 :: serve (c.receive v).2 rest

/-- The classifier has a pipeline ready for what is installed. -/
def Holds (c : Classifier) : Option Installed → Prop
  | none => c.pipeline = none
  | some i => ∃ pl,
      c.pipeline = some pl ∧ pl.Ready i.parameters i.settings i.backend

/-- An empty classifier holds nothing. -/
theorem holds_empty : empty.Holds none := rfl

variable {c : Classifier} {installed : Option Installed}

/-- A frame is answered by what is installed, and changes nothing of it. -/
theorem Holds.process (h : c.Holds installed) (frame : Tensor UInt8) :
    ∃ c', (Classifier.process frame).runFrom c
      = (classifyBy installed frame, c')
      ∧ c'.Holds installed := by
  obtain ⟨pipeline⟩ := c
  cases installed with
  | none =>
      cases h
      exact ⟨⟨none⟩, rfl, rfl⟩
  | some i =>
      obtain ⟨p, s, backend⟩ := i
      obtain ⟨pl, hpipeline, hready⟩ := h
      cases hpipeline
      obtain ⟨pl', hscore, hready'⟩ := hready.score_outcome frame
      refine ⟨⟨some pl'⟩, ?_, pl', rfl, hready'⟩
      show (Classifier.process frame).runFrom ⟨some pl⟩
        = (p.classify s backend frame, ⟨some pl'⟩)
      cases houtcome : p.classify s backend frame with
      | error e =>
          rw [houtcome] at hscore
          apply Step.runFrom_eq_error_iff.2
          simp only [Classifier.process, Step.runFrom_eq_error_iff.1 hscore]
      | ok score =>
          rw [houtcome] at hscore
          apply Step.runFrom_eq_ok_iff.2
          simp only [Classifier.process, Step.runFrom_eq_ok_iff.1 hscore]

/-- One call: the answer is the one due, and the classifier is ready for what
the call installs, or else for what was installed before. -/
theorem Holds.receive (h : c.Holds installed) (v : Visit σ) :
    (c.receive v).1 = v.reply installed
      ∧ (c.receive v).2.Holds (v.installs.or installed) := by
  obtain ⟨w, call⟩ := v
  cases call with
  | setup s =>
      have hsetup := c.exec_setup s w
      simp only [Classifier.receive, Visit.reply, Visit.installs]
      rw [hsetup]
      cases hbuild : (Hosted.exec s.build w).1 with
      | error e => exact ⟨rfl, h⟩
      | ok built => exact ⟨rfl, built.2, rfl, Settings.ready_of_build hbuild⟩
  | process frame =>
      obtain ⟨c', hprocess, hholds⟩ := h.process frame
      simp only [Classifier.receive, Visit.reply, Visit.installs]
      rw [hprocess]
      exact ⟨rfl, hholds⟩

/-- The classifier after a history. -/
def after : Classifier → List (Visit σ) → Classifier
  | c, [] => c
  | c, v :: rest => after (c.receive v).2 rest

/-- A history leaves the classifier ready for what it installed last. -/
theorem Holds.after (h : c.Holds installed) (history : List (Visit σ)) :
    (c.after history).Holds ((Visit.lastInstalled history).or installed) := by
  induction history generalizing c installed with
  | nil => exact h
  | cons v rest ih =>
      rw [Visit.lastInstalled_cons, Option.or_assoc]
      exact ih (h.receive v).2

/-- A history is answered in parts. -/
theorem serve_append (c : Classifier) (before later : List (Visit σ)) :
    c.serve (before ++ later)
      = c.serve before ++ (c.after before).serve later := by
  induction before generalizing c with
  | nil => rfl
  | cons v rest ih =>
      simp only [List.cons_append, serve, Classifier.after]
      rw [ih]

/-- Every call gets an answer. -/
theorem length_serve (c : Classifier) (history : List (Visit σ)) :
    (c.serve history).length = history.length := by
  induction history generalizing c with
  | nil => rfl
  | cons v rest ih => simp only [serve, List.length_cons, ih]

/-- Two classifiers ready for the same answer alike, whatever each went
through. -/
theorem Holds.serve_eq {c' : Classifier} (h : c.Holds installed)
    (h' : c'.Holds installed) (history : List (Visit σ)) :
    c.serve history = c'.serve history := by
  induction history generalizing c c' installed with
  | nil => rfl
  | cons v rest ih =>
      obtain ⟨hreply, hnext⟩ := h.receive v
      obtain ⟨hreply', hnext'⟩ := h'.receive v
      rw [serve, serve, hreply, hreply', ih hnext hnext']

/-- From an empty classifier on, only the history decides what is held. -/
theorem holds_after_empty (history : List (Visit σ)) :
    (empty.after history).Holds (Visit.lastInstalled history) := by
  have h := holds_empty.after history
  rwa [Option.or_none] at h

/-- In every history, a call is answered by the last set-up before it that
succeeded, and by nothing else of what came before: a set-up by its own
settings and its own world, and a frame as the pure network of the weights
that were read answers it on the backend of that set-up, or as not ready
when there was no such set-up. After a call that installs nothing, all is
answered as without it. The backend of a set-up is the one that the engine
runs on in its world, or else the one that the preference leads to. -/
theorem serve_follows_lastInstalled (before : List (Visit σ)) (v : Visit σ)
    (later : List (Visit σ)) :
    (empty.serve (before ++ v :: later))[before.length]?
        = some (v.reply (Visit.lastInstalled before))
      ∧ (v.installs = none →
        (empty.after (before ++ [v])).serve later
          = (empty.after before).serve later)
      ∧ ∀ installed, v.installs = some installed → ∃ preference,
        Preference.fromVariable v.world.host.environment.backend
          installed.settings.backend
          = .ok preference
        ∧ installed.backend = v.world.host.engine.backend.getD
          (preference.backend v.world.host.engine.offered) := by
  have hholds := holds_after_empty before
  refine ⟨?_, ?_, fun installed hinstalled =>
    Visit.backend_of_installs hinstalled⟩
  · rw [serve_append, List.getElem?_append_right
      (Nat.le_of_eq (length_serve _ _)), length_serve, Nat.sub_self]
    show some ((empty.after before).receive v).1 = _
    rw [(hholds.receive v).1]
  · intro hnone
    have hsame : Visit.lastInstalled (before ++ [v])
        = Visit.lastInstalled before := by
      rw [Visit.lastInstalled_concat, hnone, Option.none_or]
    have hholds' := holds_after_empty (before ++ [v])
    rw [hsame] at hholds'
    exact hholds'.serve_eq hholds later

/-- On a machine with vector instructions: a set-up, a frame, a set-up that
reads its weights but meets the name of no backend, and the frame again. The
frame has one score, and the failed set-up leaves no trace. -/
theorem serve_follows_lastInstalled_neon :
    ∃ (up frame down : Visit FileTree) (i : Installed) (score : Single),
      up.installs = some i ∧ i.backend = .vector
        ∧ frame.call = .process ⟨⟨2, 1, 3⟩, #[0, 1, 2, 3, 4, 5]⟩
        ∧ down.installs = none
        ∧ (∃ p w', Hosted.exec i.settings.readWeights down.world = (.ok p, w'))
        ∧ empty.serve [up, frame, down, frame]
          = [.setUp (.ok ()), .scored (.ok score),
            .setUp (.error
              (.error (.engine "backend selection" (.unknownBackend "neon")))),
            .scored (.ok score)]
        ∧ (empty.after [up, frame, down]).serve [frame]
          = (empty.after [up, frame]).serve [frame] := by
  obtain ⟨s, disk, declared, hvalid, hfits, hauto, hdeclare, hfiles⟩ :=
    Settings.exists_saved
  -- the two worlds differ in the variable, and the engine runs in the second
  let w : World FileTree := ⟨⟨Engine.idle .vector, ⟨none, none⟩⟩, #[], disk⟩
  let w' : World FileTree :=
    ⟨⟨⟨1, some .vector, .vector⟩, ⟨some [110, 101, 111, 110], none⟩⟩, #[], disk⟩
  have hreads : Disk.ReadsOnly disk := fun _ => rfl
  obtain ⟨⟨p, pl⟩, hbuild⟩ :=
    (Settings.exists_build_iff (w := w) (fun _ => hfits) hreads).2
      ⟨hvalid, (fun _ h => by cases h), declared, hdeclare, hfiles⟩
  obtain ⟨p', w₁, hread⟩ :=
    (Settings.exists_readWeights_iff (w := w') hvalid hreads).2
      ⟨declared, hdeclare, hfiles⟩
  have hstop : (Hosted.exec s.build w').1
      = .error (.error
        (.engine "backend selection" (.unknownBackend "neon"))) := by
    obtain ⟨-, -, -, j, d, -, rfl⟩ := Settings.readWeights_eq_ok_iff.1 hread
    rw [Settings.build_of_readWeights hread, Pipeline.exec_setup, hauto]
    rfl
  obtain ⟨score, hscore⟩ : ∃ score, p.classify s pl.backend
      ⟨⟨2, 1, 3⟩, #[0, 1, 2, 3, 4, 5]⟩ = .ok score :=
    ((Settings.ready_of_build hbuild).exists_classify_iff hfits.rows
      hfits.columns (by decide)).2 (by decide)
  let up : Visit FileTree := ⟨w, .setup s⟩
  let frame : Visit FileTree := ⟨w, .process ⟨⟨2, 1, 3⟩, #[0, 1, 2, 3, 4, 5]⟩⟩
  let down : Visit FileTree := ⟨w', .setup s⟩
  have hup : up.installs = some ⟨p, s, pl.backend⟩ := by
    simp only [Visit.installs, up, hbuild]
  have hdown : down.installs = none := by
    simp only [Visit.installs, down, hstop]
  have hupReply : up.reply none = .setUp (.ok ()) := by
    simp only [Visit.reply, up, hbuild]
    rfl
  have hdownReply : ∀ installed, down.reply installed
      = .setUp (.error
        (.error (.engine "backend selection" (.unknownBackend "neon")))) := by
    intro installed
    simp only [Visit.reply, down, hstop]
    rfl
  have hframe : frame.reply (some ⟨p, s, pl.backend⟩) = .scored (.ok score) :=
    congrArg Reply.scored hscore
  have hlast : Visit.lastInstalled [up] = some ⟨p, s, pl.backend⟩ := by
    simp only [Visit.lastInstalled_cons, hup]
    rfl
  have hlast' : Visit.lastInstalled [up, frame, down]
      = some ⟨p, s, pl.backend⟩ := by
    simp only [Visit.lastInstalled_cons, hup, hdown]
    rfl
  obtain ⟨hfirst, -, hbackend⟩ :=
    serve_follows_lastInstalled [] up [frame, down, frame]
  obtain ⟨hsecond, -⟩ := serve_follows_lastInstalled [up] frame [down, frame]
  obtain ⟨hthird, htrace, -⟩ :=
    serve_follows_lastInstalled [up, frame] down [frame]
  obtain ⟨hfourth, -⟩ := serve_follows_lastInstalled [up, frame, down] frame []
  obtain ⟨preference, hpreference, hvector⟩ := hbackend _ hup
  refine ⟨up, frame, down, ⟨p, s, pl.backend⟩, score, hup, ?_, rfl, hdown,
    ⟨p', w₁, hread⟩, ?_, htrace hdown⟩
  · rw [hauto] at hpreference
    cases hpreference
    exact hvector
  · rw [hdownReply] at hthird
    apply List.ext_getElem?
    intro k
    match k with
    | 0 => exact hfirst.trans (congrArg some hupReply)
    | 1 => exact hsecond.trans (by rw [hlast, hframe]; rfl)
    | 2 => exact hthird
    | 3 => exact hfourth.trans (by rw [hlast', hframe]; rfl)
    | k + 4 => rfl

end Classifier

end FireNet
