/-
What an alarm owes for a report, over all orders in which reports, closings
and the turns of its thread can come. A turn begins a run or ends a wait; it
looks at the pending flag, and after it the thread waits or has returned.

The flag is the invariant. A report raises it, and only a notice lowers it,
so there are never more notices than reports, and wherever it is down every
report has had a notice since. Every turn lowers it, except that of a run
which begins on a closing alarm: a run that was entered before the alarm was
closed leaves no report behind, whenever the close came.
-/
import FireNet.Appliance.Alarm
import FireNet.Proofs.Appliance.Schedule

set_option autoImplicit false

namespace FireNet

/-- A step of the thread that runs the alarm: a run begins, or a wait ends. -/
def AlarmAct.IsTurn (act : AlarmAct) : Prop := act = .start ∨ act = .wake

namespace LogAlarm

variable {a a' : LogAlarm} {act : AlarmAct} {acts before later : List AlarmAct}
  {said more : List Record}

-- ================================================================ steps

/-- The alarm after a turn that looked at the flag. -/
def turned (a : LogAlarm) : LogAlarm := a.deliver.1.settle.1

/-- What a step can do. -/
inductive Steps (a : LogAlarm) : AlarmAct → LogAlarm → List Record → Prop where
  /-- A run that begins on a closing alarm returns at once. -/
  | refused (hphase : a.phase = .idle) (hclosing : a.closing = true) :
      Steps a .start a [⟨.debug, "log alarm stopped"⟩]
  | begun (hphase : a.phase = .idle) (hclosing : a.closing = false) :
      Steps a .start a.turned (a.deliver.2 ++ a.deliver.1.settle.2)
  | woken (hphase : a.phase = .waiting) :
      Steps a .wake a.turned (a.deliver.2 ++ a.deliver.1.settle.2)
  | reported : Steps a .reportFire a.reported []
  | closed : Steps a .close { a with closing := true } []

/-- The ways a step can go. -/
theorem steps_of_step (h : a.step act = some (a', said)) :
    a.Steps act a' said := by
  obtain ⟨onFire, closing, delivered, phase⟩ := a
  cases act with
  | start =>
      cases phase with
      | waiting => cases h
      | idle =>
          cases closing with
          | true =>
              cases h
              exact .refused rfl rfl
          | false =>
              cases h
              exact .begun rfl rfl
  | wake =>
      cases phase with
      | idle => cases h
      | waiting =>
          cases h
          exact .woken rfl
  | reportFire =>
      cases h
      exact .reported
  | close =>
      cases h
      exact .closed

/-- The reports that wait for a notice, which count as one. -/
def pending (a : LogAlarm) : Nat := if a.onFire then 1 else 0

-- what a turn leaves

@[simp] theorem onFire_turned : a.turned.onFire = false := by
  obtain ⟨onFire, closing, delivered, phase⟩ := a
  cases onFire <;> cases closing <;> rfl

/-- A turn gives a notice for what was reported before it. -/
@[simp] theorem delivered_turned :
    a.turned.delivered = a.delivered + a.pending := by
  obtain ⟨onFire, closing, delivered, phase⟩ := a
  cases onFire <;> cases closing <;> rfl

/-- It waits again while the alarm is open. -/
theorem phase_turned_of_open (h : a.closing = false) :
    a.turned.phase = .waiting := by
  obtain ⟨onFire, closing, delivered, phase⟩ := a
  cases h
  cases onFire <;> rfl

/-- And ends when the alarm is closing. -/
theorem phase_turned_of_closing (h : a.closing = true) :
    a.turned.phase = .idle := by
  obtain ⟨onFire, closing, delivered, phase⟩ := a
  cases h
  cases onFire <;> rfl

@[simp] theorem closing_turned : a.turned.closing = a.closing := by
  obtain ⟨onFire, closing, delivered, phase⟩ := a
  cases onFire <;> cases closing <;> rfl

/-- A turn writes a notice for a pending report, and no other. -/
@[simp] theorem count_notice_turn :
    (a.deliver.2 ++ a.deliver.1.settle.2).count notice = a.pending := by
  obtain ⟨onFire, closing, delivered, phase⟩ := a
  cases onFire <;> cases closing <;> rfl

/-- Every notice is counted. -/
theorem delivered_of_step (h : a.step act = some (a', said)) :
    a'.delivered = a.delivered + said.count notice := by
  cases steps_of_step h with
  | refused hphase hclosing => rfl
  | begun hphase hclosing => rw [delivered_turned, count_notice_turn]
  | woken hphase => rw [delivered_turned, count_notice_turn]
  | reported => rfl
  | closed => rfl

/-- Notices and pending reports together grow by reports alone. -/
theorem pending_of_step (h : a.step act = some (a', said)) :
    a'.delivered + a'.pending
      ≤ a.delivered + a.pending + [act].count .reportFire := by
  cases steps_of_step h with
  | refused hphase hclosing => exact Nat.le_refl _
  | begun hphase hclosing => simp [pending]
  | woken hphase => simp [pending]
  | reported =>
      show a.delivered + 1 ≤ a.delivered + a.pending + 1
      omega
  | closed => exact Nat.le_refl _

/-- Only a notice lowers the flag. -/
theorem notice_mem_of_step (h : a.step act = some (a', said))
    (ha : a.onFire = true) (ha' : a'.onFire = false) : notice ∈ said := by
  have hpending : a.pending = 1 := if_pos ha
  have hturn : notice ∈ a.deliver.2 ++ a.deliver.1.settle.2 := by
    rw [← List.count_pos_iff, count_notice_turn, hpending]
    exact Nat.one_pos
  cases steps_of_step h with
  | refused hphase hclosing => simp [ha] at ha'
  | begun hphase hclosing => exact hturn
  | woken hphase => exact hturn
  | reported => cases ha'
  | closed => simp [ha] at ha'

/-- A turn after which the thread waits has left no report pending, and so
has every end of a wait. -/
theorem onFire_of_turn (h : a.step act = some (a', said))
    (hturn : act = .wake ∨ act = .start ∧ a'.phase = .waiting) :
    a'.onFire = false := by
  cases steps_of_step h with
  | refused hphase hclosing => simp [hphase] at hturn
  | begun hphase hclosing => exact onFire_turned
  | woken hphase => exact onFire_turned
  | reported => simp at hturn
  | closed => simp at hturn

/-- The thread of the alarm does not close it. -/
theorem closing_of_turn (h : a.step act = some (a', said))
    (hturn : act.IsTurn) :
    a'.closing = a.closing := by
  cases steps_of_step h with
  | refused hphase hclosing => rfl
  | begun hphase hclosing => exact closing_turned
  | woken hphase => exact closing_turned
  | reported => simp [AlarmAct.IsTurn] at hturn
  | closed => simp [AlarmAct.IsTurn] at hturn

-- ================================================================= runs

/-- Several steps, with what they report; `none` when one of them cannot be
taken. -/
def run (a : LogAlarm) : List AlarmAct → Option (LogAlarm × List Record)
  | [] => some (a, [])
  | act :: rest => do
    let (a, said) ← a.step act
    let (a, more) ← a.run rest
    some (a, said ++ more)

/-- A run is step after step. -/
theorem runs : Runs step run := ⟨fun _ => rfl, fun _ _ _ => rfl⟩

theorem run_cons_eq_some_iff {result : LogAlarm × List Record} :
    a.run (act :: later) = some result ↔
      ∃ b said more,
        a.step act = some (b, said) ∧ b.run later = some (result.1, more)
        ∧ result.2 = said ++ more := runs.cons_eq_some_iff

theorem run_append_eq_some_iff {result : LogAlarm × List Record} :
    a.run (before ++ later) = some result ↔
      ∃ b said more,
        a.run before = some (b, said) ∧ b.run later = some (result.1, more)
        ∧ result.2 = said ++ more := runs.append_eq_some_iff

/-- A run delivers as often as it gives notices. -/
theorem delivered_of_run (h : a.run acts = some (a', said)) :
    a'.delivered = a.delivered + said.count notice := by
  induction acts generalizing a said with
  | nil =>
      cases h
      rfl
  | cons act rest ih =>
      obtain ⟨b, first, more, hstep, hrest, hsaid⟩ := run_cons_eq_some_iff.1 h
      have hb := delivered_of_step hstep
      have ha' := ih hrest
      rw [show said = first ++ more from hsaid, List.count_append]
      omega

/-- Nothing is delivered that was not reported. -/
theorem pending_of_run (h : a.run acts = some (a', said)) :
    a'.delivered + a'.pending
      ≤ a.delivered + a.pending + acts.count .reportFire := by
  induction acts generalizing a said with
  | nil =>
      cases h
      exact Nat.le_refl _
  | cons act rest ih =>
      obtain ⟨b, first, more, hstep, hrest, -⟩ := run_cons_eq_some_iff.1 h
      have hb := pending_of_step hstep
      have ha' := ih hrest
      have hcount : (act :: rest).count AlarmAct.reportFire
          = [act].count .reportFire + rest.count .reportFire := by
        rw [← List.count_append, List.singleton_append]
      omega

/-- A report is pending until a notice. -/
theorem notice_mem_of_run (h : a.run acts = some (a', said))
    (ha : a.onFire = true) (ha' : a'.onFire = false) : notice ∈ said := by
  induction acts generalizing a said with
  | nil =>
      cases h
      rw [ha] at ha'
      cases ha'
  | cons act rest ih =>
      obtain ⟨b, first, more, hstep, hrest, hsaid⟩ := run_cons_eq_some_iff.1 h
      rw [show said = first ++ more from hsaid, List.mem_append]
      cases hb : b.onFire with
      | true => exact .inr (ih hrest hb)
      | false => exact .inl (notice_mem_of_step hstep ha hb)

/-- Runs that end in a turn and return, of a thread that was let in, leave no
report pending. The last turn is then the end of a wait: a run that begins
on an open alarm waits before it returns. -/
theorem onFire_of_returned {inside : List AlarmAct} {b e : LogAlarm}
    {last : AlarmAct} (hrun : a.run acts = some (b, said))
    (hacts : acts = before ++ .start :: inside) (hinside : .start ∉ inside)
    (hentered : a.run before = some (e, more)) (hopen : e.closing = false)
    (hlast : acts.getLast? = some last) (hturn : last.IsTurn)
    (hreturned : b.phase = .idle) : b.onFire = false := by
  rcases hturn with rfl | rfl
  · -- the last step begins the run itself, so the thread waits
    have hnone : inside = [] := by
      rw [← List.getLast?_eq_none_iff]
      cases hend : inside.getLast? with
      | none => rfl
      | some act =>
          rw [hacts, List.getLast?_append, List.getLast?_cons, hend] at hlast
          cases hlast
          exact absurd (List.mem_of_getLast? hend) hinside
    rw [hacts, hnone] at hrun
    obtain ⟨e', _, _, hbefore, hstart, -⟩ := run_append_eq_some_iff.1 hrun
    rw [hentered] at hbefore
    cases hbefore
    obtain ⟨b', _, _, hstep, hend, -⟩ := run_cons_eq_some_iff.1 hstart
    cases hend
    cases steps_of_step hstep with
    | refused hphase hclosing =>
        rw [hopen] at hclosing
        cases hclosing
    | begun hphase hclosing =>
        have hwaits := phase_turned_of_open hopen
        cases hwaits.symm.trans hreturned
  · obtain ⟨front, rfl⟩ := List.getLast?_eq_some_iff.1 hlast
    obtain ⟨c, _, _, -, hwake, -⟩ := run_append_eq_some_iff.1 hrun
    obtain ⟨b', _, _, hstep, hend, -⟩ := run_cons_eq_some_iff.1 hwake
    cases hend
    exact onFire_of_turn hstep (.inl rfl)

/-- In every run of an alarm, with reports, closings and the ends of waits in
any order: the notices are counted, and are never more than the reports; a
turn after which the thread waits leaves no report pending; and when a run
that was let in returns, each report that was made before has a notice
after it. -/
theorem reports_noticed (hrun : fresh.run acts = some (a, said)) :
    a.delivered = said.count notice
      ∧ a.delivered ≤ acts.count .reportFire
      ∧ (∀ act b more, act.IsTurn → a.step act = some (b, more) →
        b.phase = .waiting →
          b.onFire = false)
      ∧ ∀ before inside e earlier last,
        acts = before ++ .start :: inside → .start ∉ inside →
          fresh.run before = some (e, earlier) → e.closing = false →
          acts.getLast? = some last → last.IsTurn → a.phase = .idle →
          ∀ first later, acts = first ++ .reportFire :: later →
            ∃ m sooner after,
              fresh.run (first ++ [.reportFire]) = some (m, sooner)
              ∧ m.run later = some (a, after) ∧ notice ∈ after := by
  refine ⟨?_, ?_, ?_, ?_⟩
  · have hcount := delivered_of_run hrun
    rw [hcount]
    exact Nat.zero_add _
  · have hle := pending_of_run hrun
    have hfresh : fresh.delivered + fresh.pending = 0 := rfl
    omega
  · intro act b more hturn hstep hwaits
    refine onFire_of_turn hstep ?_
    rcases hturn with rfl | rfl
    · exact .inr ⟨rfl, hwaits⟩
    · exact .inl rfl
  · intro before inside e earlier last hacts hinside hentered hopen hlast
      hturn hreturned first later hreport
    have hquiet : a.onFire = false :=
      onFire_of_returned hrun hacts hinside hentered hopen hlast hturn hreturned
    rw [hreport] at hrun
    obtain ⟨b, sooner, _, hfirst, hrest, -⟩ := run_append_eq_some_iff.1 hrun
    obtain ⟨m, _, after, hstep, hlater, -⟩ := run_cons_eq_some_iff.1 hrest
    cases hstep
    refine ⟨b.reported, sooner ++ [], after, ?_, hlater,
      notice_mem_of_run hlater rfl hquiet⟩
    rw [run_append_eq_some_iff]
    exact ⟨b, sooner, [], hfirst, rfl, rfl⟩

/-- A report and a close while the thread waits: it returns with the notice
written. -/
theorem reports_noticed_before_close :
    ∃ a said, fresh.run [.start, .reportFire, .close, .wake] = some (a, said)
      ∧ a.phase = .idle ∧ a.delivered = said.count notice ∧ a.delivered ≤ 1
      ∧ ∃ m sooner after, fresh.run [.start, .reportFire] = some (m, sooner)
          ∧ m.run [.close, .wake] = some (a, after) ∧ notice ∈ after := by
  have hrun : fresh.run [.start, .reportFire, .close, .wake]
      = some (⟨false, true, 1, .idle⟩,
        [notice, ⟨.debug, "log alarm stopped"⟩]) := rfl
  obtain ⟨hcount, hle, -, hreports⟩ := reports_noticed hrun
  exact ⟨_, _, hrun, rfl, hcount, hle,
    hreports [] [.reportFire, .close, .wake] fresh [] .wake rfl
      (by decide) rfl rfl rfl (.inr rfl) rfl [.start] [.close, .wake] rfl⟩

end LogAlarm

end FireNet
