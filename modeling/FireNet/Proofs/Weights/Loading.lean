/-
What loading asks of a source, and what it makes of the answers. Every
request is an exchange: a name and a buffer go out, an outcome and a buffer
of the same length come back. The requests of a load are those of the blob
list, one after another up to the first failure, whatever the source does
with its state and with the buffers; the transcript is that run written
down. Loading then is read off the transcript, because a traversal visits
what the blob list lists.

A transcript is only a definition. What makes it a record of something that
happens is the recording source, which answers as the source does and keeps
its exchanges in its own state: recording is seen by nothing else, and what
it writes down is the transcript (`transcript_recording`).

A load in place differs from a load in one point. What its caller holds
after a failure is what it held before, although buffers of the failed run
were filled.
-/
import FireNet.Proofs.Journal
import FireNet.Proofs.Weights.Traversal
import FireNet.Weights.Source

set_option autoImplicit false

namespace FireNet

variable {σ : Type}

-- ============================================================ exchanges

/-- One request with its answer. -/
structure Exchange where
  name : String
  length : Nat
  /-- The buffer as it was given to the source. -/
  given : Vector Single length
  outcome : Outcome Unit
  /-- The buffer as the source left it. -/
  left : Vector Single length

namespace Exchange

/-- What was asked for. -/
def request (e : Exchange) : String × Nat := (e.name, e.length)

/-- What a load makes of it: the buffer, or the failure. -/
def answer (e : Exchange) : Outcome (Array Single) :=
  e.outcome.map fun _ => e.left.toArray

/-- All requests succeeded. -/
def Answered (log : List Exchange) : Prop := ∀ e ∈ log, e.outcome = .ok ()

/-- The last request failed, and all before it succeeded. -/
def Refused (log : List Exchange) (failure : Failure) : Prop :=
  ∃ before last,
    log = before ++ [last] ∧ Answered before ∧ last.outcome = .error failure

theorem answer_of_ok {e : Exchange} (h : e.outcome = .ok ()) :
    e.answer = .ok e.left.toArray := by
  rw [answer, h]
  rfl

theorem answer_of_error {e : Exchange} {failure : Failure}
    (h : e.outcome = .error failure) :
    e.answer = .error failure := by
  rw [answer, h]
  rfl

/-- One more exchange that went well. -/
theorem Answered.cons {e : Exchange} {log : List Exchange}
    (he : e.outcome = .ok ()) (hlog : Answered log) : Answered (e :: log) := by
  intro x hx
  cases hx with
  | head => exact he
  | tail _ hx => exact hlog x hx

/-- A refusal comes behind exchanges that went well. -/
theorem Refused.cons {e : Exchange} {log : List Exchange} {failure : Failure}
    (he : e.outcome = .ok ()) (hlog : Refused log failure) :
    Refused (e :: log) failure := by
  obtain ⟨before, last, hsplit, hbefore, hlast⟩ := hlog
  exact ⟨e :: before, last, by
    rw [hsplit, List.cons_append], hbefore.cons he, hlast⟩

theorem Refused.single {e : Exchange} {failure : Failure}
    (he : e.outcome = .error failure) :
    Refused [e] failure :=
  ⟨[], e, rfl, fun _ hx => absurd hx List.not_mem_nil, he⟩

/-- When all were answered, the buffers that came back are the answers. -/
theorem Answered.mapM_answer {log : List Exchange} (h : Answered log) :
    log.mapM answer = .ok (log.map fun e => e.left.toArray) := by
  induction log with
  | nil => rfl
  | cons e rest ih =>
      have he := answer_of_ok (h e List.mem_cons_self)
      have hrest := ih fun x hx => h x (List.mem_cons_of_mem _ hx)
      rw [List.mapM_cons, he, hrest]
      rfl

/-- When one was refused, its failure is the answer. -/
theorem Refused.mapM_answer {log : List Exchange} {failure : Failure}
    (h : Refused log failure) :
    log.mapM answer = .error failure := by
  obtain ⟨before, last, hsplit, hbefore, hlast⟩ := h
  rw [hsplit, List.mapM_append, hbefore.mapM_answer, List.mapM_cons,
    answer_of_error hlast]
  rfl

end Exchange

-- =========================================================== transcript

/-- Requests of a source, with the journal and the state after them. -/
structure Transcript (σ : Type) where
  log : List Exchange
  journal : Journal
  state : σ

namespace BlobSource

/-- One request to a source, announced in the journal. -/
def ask (source : BlobSource (StateM σ)) (key : BlobKey) (old : Array Single)
    (j : Journal) (s : σ) : Exchange × Journal × σ :=
  let announced := j.push ⟨.debug, s!"loading {key.name} ({old.size} floats)"⟩
  let ((outcome, left), j, s) :=
    Reporting.exec (source.fill key.name old.toVector) announced s
  (⟨key.name, old.size, old.toVector, outcome, left⟩, j, s)

/-- One request after another, up to the first failure. -/
def transcript (source : BlobSource (StateM σ)) :
    List (BlobKey × Array Single) → Journal → σ → Transcript σ
  | [], j, s => ⟨[], j, s⟩
  | (key, old) :: rest, j, s =>
    let (exchange, j, s) := source.ask key old j s
    match exchange.outcome with
    | .error _ => ⟨[exchange], j, s⟩
    | .ok () =>
      let later := source.transcript rest j s
      { later with log := exchange :: later.log }

variable {source : BlobSource (StateM σ)} {key : BlobKey} {old : Array Single}
  {rest : List (BlobKey × Array Single)} {j j' : Journal} {s s' : σ}
  {exchange : Exchange}

/-- A refusal ends the transcript. -/
theorem transcript_cons_error {failure : Failure}
    (h : source.ask key old j s = (exchange, j', s'))
    (hfailed : exchange.outcome = .error failure) :
    source.transcript ((key, old) :: rest) j s = ⟨[exchange], j', s'⟩ := by
  rw [transcript, h]
  simp only [hfailed]

/-- An answer lets it go on. -/
theorem transcript_cons_ok (h : source.ask key old j s = (exchange, j', s'))
    (hok : exchange.outcome = .ok ()) :
    source.transcript ((key, old) :: rest) j s
      = { source.transcript rest j' s' with
          log := exchange :: (source.transcript rest j' s').log } := by
  rw [transcript, h]
  simp only [hok]

/-- A request asks for the name of its key and gives the old values. -/
theorem ask_given (h : source.ask key old j s = (exchange, j', s')) :
    exchange.request = (key.name, old.size) ∧ exchange.given.toArray = old := by
  unfold ask at h
  cases h
  exact ⟨rfl, rfl⟩

/-- The requests are those of the list, as far as they go, each with the
values that the list has. -/
theorem transcript_requests (blobs : List (BlobKey × Array Single))
    (j : Journal) (s : σ) :
    (source.transcript blobs j s).log.map
      (fun e => (e.request, e.given.toArray))
      = (blobs.map fun (key, old) => ((key.name, old.size), old)).take
          (source.transcript blobs j s).log.length := by
  induction blobs generalizing j s with
  | nil => rfl
  | cons blob rest ih =>
      obtain ⟨key, old⟩ := blob
      obtain ⟨⟨exchange, j', s'⟩, h⟩ : ∃ x, source.ask key old j s = x :=
        ⟨_, rfl⟩
      obtain ⟨hrequest, hgiven⟩ := ask_given h
      cases hresult : exchange.outcome with
      | error failure =>
          rw [transcript_cons_error h hresult]
          simp [hrequest, hgiven]
      | ok _ =>
          rw [transcript_cons_ok h hresult]
          simp only [List.map_cons, List.length_cons, List.take_succ_cons,
            hrequest, hgiven, ih]

/-- A transcript ends at its first failure, or with its list. -/
theorem transcript_ends (blobs : List (BlobKey × Array Single)) (j : Journal)
    (s : σ) :
    (∃ failure, Exchange.Refused (source.transcript blobs j s).log failure)
      ∨ Exchange.Answered (source.transcript blobs j s).log := by
  induction blobs generalizing j s with
  | nil => exact .inr fun _ hx => absurd hx List.not_mem_nil
  | cons blob rest ih =>
      obtain ⟨key, old⟩ := blob
      obtain ⟨⟨exchange, j', s'⟩, h⟩ : ∃ x, source.ask key old j s = x :=
        ⟨_, rfl⟩
      cases hresult : exchange.outcome with
      | error failure =>
          rw [transcript_cons_error h hresult]
          exact .inl ⟨failure, Exchange.Refused.single hresult⟩
      | ok _ =>
          rw [transcript_cons_ok h hresult]
          rcases ih j' s' with ⟨failure, hlater⟩ | hlater
          · exact .inl ⟨failure, hlater.cons hresult⟩
          · exact .inr (hlater.cons hresult)

-- ============================================================ recording

/-- The source, with a state that also keeps the exchanges. -/
def recording (source : BlobSource (StateM σ)) :
    BlobSource (StateM (σ × List Exchange)) where
  fill name n buffer := fun j (s, log) =>
    let ((outcome, left), j, s) := Reporting.exec (source.fill name buffer) j s
    (((outcome, left), j), (s, log ++ [⟨name, n, buffer, outcome, left⟩]))

/-- A recording source answers as the source, and keeps the exchange. -/
theorem ask_recording (log : List Exchange)
    (h : source.ask key old j s = (exchange, j', s')) :
    source.recording.ask key old j (s, log)
      = (exchange, j', (s', log ++ [exchange])) := by
  unfold ask at h
  cases h
  rfl

/-- Recording changes nothing but the record, and the record is the
transcript. -/
theorem transcript_recording (blobs : List (BlobKey × Array Single))
    (j : Journal) (s : σ) (log : List Exchange) :
    source.recording.transcript blobs j (s, log)
      = ⟨(source.transcript blobs j s).log,
        (source.transcript blobs j s).journal,
          ((source.transcript blobs j s).state,
            log ++ (source.transcript blobs j s).log)⟩ := by
  induction blobs generalizing j s log with
  | nil => rw [transcript, transcript, List.append_nil]
  | cons blob rest ih =>
      obtain ⟨key, old⟩ := blob
      obtain ⟨⟨exchange, j', s'⟩, h⟩ : ∃ x, source.ask key old j s = x :=
        ⟨_, rfl⟩
      have hrecorded := ask_recording log h
      cases hresult : exchange.outcome with
      | error failure =>
          rw [transcript_cons_error h hresult,
            transcript_cons_error hrecorded hresult]
      | ok _ =>
          rw [transcript_cons_ok h hresult,
            transcript_cons_ok hrecorded hresult, ih]
          simp only [List.append_assoc, List.singleton_append]

-- ============================================================= requests

/-- A request runs one exchange, and gives its answer. -/
theorem exec_request (h : source.ask key old j s = (exchange, j', s')) :
    (source.request key old).exec j s = (exchange.answer, j', s') := by
  unfold ask at h
  rcases hfill : Reporting.exec (source.fill key.name old.toVector)
    (j.push ⟨.debug, s!"loading {key.name} ({old.size} floats)"⟩)
      s with ⟨⟨outcome, left⟩, j₁, s₁⟩
  simp only [hfill] at h
  cases h
  unfold request
  rw [Reported.exec_bind_ok Reported.exec_report,
    Reported.exec_bind_ok (Reported.exec_lift hfill)]
  cases outcome with
  | ok _ => rfl
  | error failure => rfl

/-- A request that keeps its key with the values. -/
def requestListed {m : Type → Type} [Monad m] (source : BlobSource m)
    (blob : BlobKey × Array Single) : Reported m (BlobKey × Array Single) := do
  let values ← source.request blob.1 blob.2
  pure (blob.1, values)

/-- In a list the answer is paired with its blob. -/
theorem exec_requestListed (h : source.ask key old j s = (exchange, j', s')) :
    (source.requestListed (key, old)).exec j s
      = (exchange.answer.map fun values => (key, values), j', s') := by
  have hrequest := exec_request h
  unfold requestListed
  cases hanswer : exchange.answer with
  | error failure =>
      rw [hanswer] at hrequest
      rw [Reported.exec_bind_error hrequest]
      rfl
  | ok values =>
      rw [hanswer] at hrequest
      rw [Reported.exec_bind_ok hrequest]
      rfl

/-- Requesting a list of blobs goes as its transcript does, and each key
gets what its buffer was left with. -/
theorem exec_requests (blobs : List (BlobKey × Array Single)) (j : Journal)
    (s : σ) :
    (blobs.mapM source.requestListed).exec j s
      = (((source.transcript blobs j s).log.mapM Exchange.answer).map
            fun values => (blobs.map Prod.fst).zip values,
          (source.transcript blobs j s).journal,
            (source.transcript blobs j s).state) := by
  induction blobs generalizing j s with
  | nil => rfl
  | cons blob rest ih =>
      obtain ⟨key, old⟩ := blob
      obtain ⟨⟨exchange, j', s'⟩, h⟩ : ∃ x, source.ask key old j s = x :=
        ⟨_, rfl⟩
      have hrequest := exec_requestListed h
      rw [List.mapM_cons]
      cases hresult : exchange.outcome with
      | error failure =>
          have hanswer := Exchange.answer_of_error hresult
          rw [hanswer] at hrequest
          rw [transcript_cons_error h hresult,
            Reported.exec_bind_error hrequest, List.mapM_cons, hanswer]
          rfl
      | ok _ =>
          have hanswer := Exchange.answer_of_ok hresult
          rw [hanswer] at hrequest
          rw [transcript_cons_ok h hresult, Reported.exec_bind_ok hrequest,
            List.mapM_cons, hanswer]
          have hlater := ih j' s'
          cases hvalues : (source.transcript rest j' s').log.mapM
            Exchange.answer with
          | error failure =>
              rw [hvalues] at hlater
              rw [Reported.exec_bind_error hlater]
              rfl
          | ok values =>
              rw [hvalues] at hlater
              rw [Reported.exec_bind_ok hlater]
              rfl

/-- A transcript without a refusal has one exchange for each blob. -/
theorem length_transcript_of_answered {blobs : List (BlobKey × Array Single)}
    (hall : Exchange.Answered (source.transcript blobs j s).log) :
    (source.transcript blobs j s).log.length = blobs.length := by
  induction blobs generalizing j s with
  | nil => rfl
  | cons blob rest ih =>
      obtain ⟨key, old⟩ := blob
      obtain ⟨⟨exchange, j', s'⟩, h⟩ : ∃ x, source.ask key old j s = x :=
        ⟨_, rfl⟩
      cases hresult : exchange.outcome with
      | error failure =>
          rw [transcript_cons_error h hresult] at hall
          have hok := hall exchange (List.mem_singleton_self _)
          rw [hresult] at hok
          cases hok
      | ok _ =>
          rw [transcript_cons_ok h hresult] at hall ⊢
          have hlater :=
            ih (j := j') (s := s') fun e he =>
              hall e (List.mem_cons_of_mem _ he)
          simp only [List.length_cons, hlater]

end BlobSource

-- ============================================================== loading

section

variable {m : Type → Type} [Monad m] [LawfulMonad m] {source : BlobSource m}

/-- A layer requests its blobs. -/
theorem BlobSource.blobs_requestLayer {address : LayerAddress} {layer : Layer} :
    (do
      let layer ← source.requestLayer address layer
      pure (Parameters.blobs address layer))
      = (Parameters.blobs address layer).mapM source.requestListed := by
  unfold BlobSource.requestLayer Parameters.blobs
  cases layer.bias with
  | none => simp [BlobSource.requestListed, BlobKey.weight]
  | some bias => simp [BlobSource.requestListed, BlobKey.weight, BlobKey.bias]

/-- The blobs of the layers that a load gives are the answers to the
requests for their blobs, one by one. -/
theorem BlobSource.blobs_visitListed {layers : List (LayerAddress × Layer)} :
    (do
      let layers ← layers.mapM (visitListed source.requestLayer)
      pure (layers.flatMap fun (address, layer) =>
        Parameters.blobs address layer))
      = (layers.flatMap fun (address, layer) =>
        Parameters.blobs address layer).mapM
          source.requestListed := by
  induction layers with
  | nil => simp
  | cons entry rest ih =>
      rw [List.flatMap_cons,
        List.mapM_append, ← BlobSource.blobs_requestLayer, ← ih]
      simp [visitListed]

/-- A traversal requests the listed blobs. -/
theorem Parameters.allBlobs_traverse {p : Parameters} :
    (do
      let p ← p.traverse source.requestLayer
      pure p.allBlobs)
      = p.allBlobs.mapM source.requestListed := by
  unfold Parameters.allBlobs
  rw [← BlobSource.blobs_visitListed, ← Parameters.layers_traverse, bind_assoc]
  simp only [pure_bind]

theorem Returns.of_throw {α : Type} {P : α → Prop} {failure : Failure} :
    Returns (throw failure : Reported m α) P := by
  constructor
  intro β f g _
  apply ExceptT.ext
  simp

/-- A request answers with as many values as it was given. -/
theorem BlobSource.request_returns {key : BlobKey} {old : Array Single} :
    Returns (source.request key old) fun values => values.size = old.size := by
  unfold BlobSource.request
  apply Returns.any.bind
  intro _ _
  apply Returns.any.bind
  intro entry _
  obtain ⟨outcome, buffer⟩ := entry
  cases outcome with
  | ok _ => exact Returns.pure buffer.size_toArray
  | error failure => exact Returns.of_throw

/-- A layer keeps all but its values. -/
theorem BlobSource.requestLayer_returns {address : LayerAddress}
    {layer : Layer} :
    Returns (source.requestLayer address layer) fun layer' => layer'.blank
      = layer.blank := by
  unfold BlobSource.requestLayer
  apply BlobSource.request_returns.bind
  intro weights hweights
  cases hbias : layer.bias with
  | none =>
      apply Returns.pure
      simp only [Layer.blank, hweights, hbias]
  | some old =>
      apply BlobSource.request_returns.bind
      intro bias hsize
      apply Returns.pure
      simp only [Layer.blank, hweights, hsize, hbias, Option.map_some]

end

variable {source : BlobSource (StateM σ)} {p : Parameters} {j : Journal} {s : σ}

theorem Returns.exec {α : Type} {x : Reported (StateM σ) α} {P : α → Prop}
    {a : α} {j j' : Journal} {s s' : σ} (hx : Returns x P)
    (h : x.exec j s = (.ok a, j', s')) : P a := by
  classical
  -- A test of `P` after `x` cannot be told from no test.
  have htest := hx.bind_congr (fun _ => Pure.pure ())
    (fun a => if P a then Pure.pure () else MonadExcept.throw .fault)
    fun a ha => (if_pos ha).symm
  have hrun := congrArg (fun y => (y.exec j s).1) htest
  simp only [Reported.exec_bind_ok h] at hrun
  by_cases ha : P a
  · exact ha
  · rw [if_neg ha, Reported.exec_pure, Reported.exec_throw] at hrun
    cases hrun

/-- The report of a load that succeeded. -/
def Parameters.loadedRecord (p : Parameters) : Record :=
  ⟨.info, s!"loaded {p.manifest.length} parameter blobs ({p.elements} floats)"⟩

/-- A refused load gives the failure of the last exchange. -/
theorem Parameters.exec_load_refused {t : Transcript σ} {failure : Failure}
    (ht : source.transcript p.allBlobs j s = t)
    (hrefused : Exchange.Refused t.log failure) :
    (p.load source).exec j s = (.error failure, t.journal, t.state) := by
  have hrequests := source.exec_requests p.allBlobs j s
  rcases htraverse : (p.traverse source.requestLayer).exec j
    s with ⟨result, j', s'⟩
  rw [← Parameters.allBlobs_traverse, Reported.exec_bind_pure htraverse, ht,
    hrefused.mapM_answer] at hrequests
  injection hrequests with hresult hrest
  injection hrest with hjournal hstate
  cases result with
  | ok loaded => cases hresult
  | error e =>
      cases hresult
      rw [Parameters.load, Reported.exec_bind_error htraverse, hjournal, hstate]

/-- An answered load gives the buffers that came back, under the keys that
were asked for. -/
theorem Parameters.exec_load_answered {t : Transcript σ}
    (ht : source.transcript p.allBlobs j s = t)
    (hanswered : Exchange.Answered t.log) :
    ∃ loaded : Parameters,
      (p.load source).exec j s
        = (.ok loaded, t.journal.push loaded.loadedRecord, t.state) ∧
      loaded.allBlobs
        = (p.allBlobs.map Prod.fst).zip (t.log.map fun e => e.left.toArray) ∧
      loaded.blank = p.blank := by
  have hrequests := source.exec_requests p.allBlobs j s
  rcases htraverse : (p.traverse source.requestLayer).exec j
    s with ⟨result, j', s'⟩
  rw [← Parameters.allBlobs_traverse, Reported.exec_bind_pure htraverse, ht,
    hanswered.mapM_answer] at hrequests
  injection hrequests with hresult hrest
  injection hrest with hjournal hstate
  cases result with
  | error e => cases hresult
  | ok loaded =>
      injection hresult with hblobs
      have hkeeps : Returns (p.traverse source.requestLayer) fun q =>
          q.blank = p.blank :=
        Parameters.map_traverse fun _ _ => BlobSource.requestLayer_returns
      refine ⟨loaded, ?_, hblobs, hkeeps.exec htraverse⟩
      rw [Parameters.load, Reported.exec_bind_ok htraverse,
        Reported.exec_bind_ok Reported.exec_report, Reported.exec_pure,
        hjournal, hstate]
      rfl

/-- Loading fills values only. -/
theorem Parameters.blank_of_load {loaded : Parameters} {j' : Journal} {s' : σ}
    (h : (p.load source).exec j s = (.ok loaded, j', s')) :
    loaded.blank = p.blank := by
  rcases source.transcript_ends p.allBlobs j
    s with ⟨failure, hrefused⟩ | hanswered
  · rw [Parameters.exec_load_refused rfl hrefused] at h
    cases h
  · obtain ⟨loaded', hload, -, hblank⟩ :=
      Parameters.exec_load_answered rfl hanswered
    rw [hload] at h
    cases h
    exact hblank

-- ============================================================= in place

/-- A reload that loads puts the loaded parameters in place. -/
theorem Parameters.exec_reload_ok {loaded : Parameters} {j' : Journal} {s' : σ}
    (h : (p.load source).exec j s = (.ok loaded, j', s')) :
    (p.reload source).exec j s = ((.ok (), loaded), j', s') := by
  unfold Parameters.reload
  rw [Reporting.exec_bind h, Reporting.exec_pure]

/-- One that fails leaves them as they were. -/
theorem Parameters.exec_reload_error {failure : Failure} {j' : Journal} {s' : σ}
    (h : (p.load source).exec j s = (.error failure, j', s')) :
    (p.reload source).exec j s = ((.error failure, p), j', s') := by
  unfold Parameters.reload
  rw [Reporting.exec_bind h, Reporting.exec_pure]

theorem Parameters.length_manifest : p.manifest.length = p.allBlobs.length :=
  List.length_map _

theorem Parameters.keys_manifest :
    p.manifest.map Prod.fst = p.allBlobs.map Prod.fst := by
  rw [Parameters.manifest, List.map_map]
  rfl

variable {t : Transcript σ} (ht : source.transcript p.allBlobs j s = t)
include ht

/-- What is asked for follows the manifest, name by name and count by
count. -/
theorem Parameters.transcript_asked :
    t.log.map Exchange.request
      = (p.manifest.map fun (key, n) => (key.name, n)).take t.log.length := by
  have hrequests :=
    congrArg (List.map Prod.fst) (source.transcript_requests p.allBlobs j s)
  rw [ht, List.map_map, List.map_take, List.map_map] at hrequests
  rw [Parameters.manifest, List.map_map]
  exact hrequests

/-- What is given along are the values that the parameters hold. -/
theorem Parameters.transcript_given :
    (t.log.map fun e => e.given.toArray)
      = (p.allBlobs.map Prod.snd).take t.log.length := by
  have hrequests :=
    congrArg (List.map Prod.snd) (source.transcript_requests p.allBlobs j s)
  rw [ht, List.map_map, List.map_take, List.map_map] at hrequests
  exact hrequests

/-- A load from a recording source is the load from the source, with the
exchanges recorded. -/
theorem Parameters.exec_load_recording {result : Outcome Parameters}
    {j' : Journal} (hload : (p.load source).exec j s = (result, j', t.state)) :
    (p.load source.recording).exec j (s, [])
      = (result, j', (t.state, t.log)) := by
  have hrecorded := source.transcript_recording p.allBlobs j s []
  have hends := source.transcript_ends p.allBlobs j s
  rw [ht] at hrecorded hends
  rcases hends with ⟨failure, hrefused⟩ | hanswered
  · rw [Parameters.exec_load_refused ht hrefused] at hload
    cases hload
    exact Parameters.exec_load_refused hrecorded hrefused
  · obtain ⟨loaded, hloaded, hblobs, hblank⟩ :=
      Parameters.exec_load_answered ht hanswered
    obtain ⟨again, hagain, hblobs', hblank'⟩ :=
      Parameters.exec_load_answered hrecorded hanswered
    have hsame : again = loaded := by
      apply Parameters.ext_blank
      · rw [hblank', hblank]
      · rw [hblobs', hblobs]
    rw [hloaded] at hload
    cases hload
    rw [hsame] at hagain
    exact hagain

omit ht

/-- Whatever a source does, a load asks it for the blobs of the manifest in
order, each with the values held, and stops at the first failure. The log
is what a recording source writes down, and recording is seen by nothing
else. A failed load ends with that failure and leaves the parameters as
they were; a load that succeeds leaves in each blob what the source left in
its buffer, and changes nothing else. -/
theorem Parameters.reload_follows_manifest (source : BlobSource (StateM σ))
    (p : Parameters) (j : Journal) (s : σ) :
    ∃ (outcome : Outcome Unit) (held : Parameters) (j' : Journal) (s' : σ)
      (log : List Exchange),
      (p.load source).exec j s = (outcome.map fun _ => held, j', s') ∧
      (p.reload source).exec j s = ((outcome, held), j', s') ∧
      (p.reload source.recording).exec j (s, [])
        = ((outcome, held), j', (s', log)) ∧
      log.map Exchange.request
        = (p.manifest.map fun (key, n) => (key.name, n)).take log.length ∧
      (log.map fun e => e.given.toArray)
        = (p.allBlobs.map Prod.snd).take log.length ∧
      ((∃ failure, Exchange.Refused log failure ∧ outcome = .error failure
        ∧ held = p)
        ∨ (Exchange.Answered log ∧ log.length = p.manifest.length
          ∧ outcome = .ok () ∧
          held.allBlobs
            = (p.manifest.map Prod.fst).zip (log.map fun e => e.left.toArray) ∧
          held.blank = p.blank)) := by
  obtain ⟨t, ht⟩ : ∃ t, source.transcript p.allBlobs j s = t := ⟨_, rfl⟩
  have hasked := Parameters.transcript_asked ht
  have hgiven := Parameters.transcript_given ht
  have hends := source.transcript_ends p.allBlobs j s
  rw [ht] at hends
  rcases hends with ⟨failure, hrefused⟩ | hanswered
  · have hload := Parameters.exec_load_refused ht hrefused
    have hrecorded := Parameters.exec_load_recording ht hload
    exact ⟨.error failure, p, t.journal, t.state, t.log, hload,
      Parameters.exec_reload_error hload,
      Parameters.exec_reload_error hrecorded, hasked, hgiven,
      .inl ⟨failure, hrefused, rfl, rfl⟩⟩
  · obtain ⟨loaded, hload, hblobs, hblank⟩ :=
      Parameters.exec_load_answered ht hanswered
    have hrecorded := Parameters.exec_load_recording ht hload
    have hlength := source.length_transcript_of_answered (ht ▸ hanswered)
    rw [ht, ← Parameters.length_manifest] at hlength
    rw [← Parameters.keys_manifest] at hblobs
    exact ⟨.ok (), loaded, t.journal.push loaded.loadedRecord, t.state,
      t.log, hload,
      Parameters.exec_reload_ok hload, Parameters.exec_reload_ok hrecorded,
      hasked, hgiven, .inr ⟨hanswered, hlength, rfl, hblobs, hblank⟩⟩

end FireNet
