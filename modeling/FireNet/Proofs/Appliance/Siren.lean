/-
What the appliance makes of a crossing, over all orders in which the three
threads can take their steps. The sensor calls the detector with its lock
released, so a reading can be on its way while the main thread closes the
sensor and then the alarm.

From the moment that the alarm is entered until it is closed its thread
waits, and a report that finds it waiting gets its notice (`noticed_of_run`).
Once closed, the alarm returns at its next turn, and a report that comes
later stays pending for good. Only the one reading that was on its way can
be that late: a closed sensor hands over nothing more.
-/
import FireNet.Appliance.Siren
import FireNet.Proofs.Appliance.Alarm

set_option autoImplicit false

namespace FireNet

namespace Siren

variable {s s' : Siren} {act : SirenAct} {acts first later : List SirenAct}
  {said more : List Record}

-- ================================================================ steps

/-- The alarm after a reading. -/
def heard (s : Siren) (reading : Single) : LogAlarm :=
  if Detector.isHot s.threshold reading then s.alarm.reported else s.alarm

/-- What a step can do. -/
inductive Steps (s : Siren) : SirenAct → Siren → List Record → Prop where
  | alarmStarted {alarm : LogAlarm} {said : List Record}
      (h : s.alarm.step .start = some (alarm, said)) :
      Steps s .startAlarm { s with alarm := alarm } said
  | alarmWoken {alarm : LogAlarm} {said : List Record}
      (h : s.alarm.step .wake = some (alarm, said)) :
      Steps s .wakeAlarm { s with alarm := alarm } said
  | sensorStarted (hphase : s.sensor.phase = .idle) :
      Steps s .startSensor
        { s with sensor := { s.sensor with phase := .sleeping 0 } } []
  | sensorStopped {n : Nat} (hphase : s.sensor.phase = .sleeping n)
      (hclosing : s.sensor.closing = true) :
      Steps s .wakeSensor { s with sensor := { s.sensor with phase := .idle } }
        [⟨.debug, "mock temperature sensor stopped"⟩]
  /-- A period ends while the sensor is open. -/
  | sensorWoken {n : Nat} {phase : SensorPhase Unit}
      (hphase : s.sensor.phase = .sleeping n)
      (hclosing : s.sensor.closing = false) :
      Steps s .wakeSensor
        { s with sensor := { s.sensor with phase := phase } } []
  | detected {n : Nat} {reading : Single}
      (hphase : s.sensor.phase = .calling n () reading) :
      Steps s .detect
        { s with
          alarm := s.heard reading
          sensor := { s.sensor with phase := .sleeping n } }
        [⟨.info, s!"temperature {reading.fixed 1} C"⟩]
  | sensorClosed (hmain : s.main = .running) :
      Steps s .closeSensor
        { s with
          sensor := { s.sensor with closing := true }
          main := .sensorClosed } []
  | alarmClosed (hmain : s.main = .sensorClosed) :
      Steps s .closeAlarm
        { s with
          alarm := { s.alarm with closing := true }
          main := .bothClosed } []
  | joined (hmain : s.main = .bothClosed) :
      Steps s .join { s with main := .finished } []

/-- The detector reports the reading, and the fire if it is one. -/
theorem run_celsiusReceiver (threshold reading : Single) (alarm : LogAlarm) :
    ((((detector threshold).celsiusReceiver reading).run #[]).run alarm)
      = (((), #[⟨.info, s!"temperature {reading.fixed 1} C"⟩]),
          if Detector.isHot threshold reading then alarm.reported
          else alarm) := by
  cases hhot : Detector.isHot threshold reading with
  | true =>
      simp only [Detector.celsiusReceiver, Detector.onCelsius, detector, hhot]
      rfl
  | false =>
      simp only [Detector.celsiusReceiver, Detector.onCelsius, detector, hhot]
      rfl

/-- The ways a step can go. -/
theorem steps_of_step (h : s.step act = some (s', said)) :
    s.Steps act s' said := by
  obtain ⟨⟨closing, receiver, phase⟩, alarm, threshold, main⟩ := s
  cases act with
  | startAlarm =>
      obtain ⟨⟨alarm', said'⟩, hstep, heq⟩ := Option.bind_eq_some_iff.1 h
      cases heq
      exact .alarmStarted hstep
  | wakeAlarm =>
      obtain ⟨⟨alarm', said'⟩, hstep, heq⟩ := Option.bind_eq_some_iff.1 h
      cases heq
      exact .alarmWoken hstep
  | startSensor =>
      cases phase with
      | idle =>
          cases h
          exact .sensorStarted rfl
      | sleeping n => cases h
      | calling n r reading => cases h
  | wakeSensor =>
      cases phase with
      | idle => cases h
      | calling n r reading => cases h
      | sleeping n =>
          cases closing with
          | true =>
              cases h
              exact .sensorStopped rfl rfl
          | false =>
              cases receiver with
              | none =>
                  cases h
                  exact .sensorWoken rfl rfl
              | some r =>
                  cases h
                  exact .sensorWoken rfl rfl
  | detect =>
      cases phase with
      | idle => cases h
      | sleeping n => cases h
      | calling n r reading =>
          simp only [step, run_celsiusReceiver] at h
          cases h
          exact .detected rfl
  | closeSensor =>
      cases main with
      | running =>
          cases h
          exact .sensorClosed rfl
      | _ => cases h
  | closeAlarm =>
      cases main with
      | sensorClosed =>
          cases h
          exact .alarmClosed rfl
      | _ => cases h
  | join =>
      simp only [step] at h
      split at h
      · next hready =>
          cases h
          exact .joined hready.1
      · cases h

/-- A run is step after step. -/
theorem runs : Runs step run := ⟨fun _ => rfl, fun _ _ _ => rfl⟩

-- =============================================================== closings

/-- The main thread alone closes, and in its order. -/
structure Ordered (s : Siren) : Prop where
  sensor : s.sensor.closing = true ↔ s.main ≠ .running
  alarm : s.alarm.closing = true ↔ s.main = .bothClosed ∨ s.main = .finished

/-- A fresh siren is in order. -/
theorem ordered_fresh (threshold : Single) : (fresh threshold).Ordered :=
  ⟨by simp [fresh, MockSensor.fresh], by simp [fresh, LogAlarm.fresh]⟩

theorem closing_heard (reading : Single) :
    (s.heard reading).closing = s.alarm.closing := by
  unfold heard
  split
  · rfl
  · rfl

/-- A hot reading puts the alarm on fire, and it stays so. -/
theorem onFire_heard {reading : Single}
    (h : s.alarm.onFire = true ∨ Detector.isHot s.threshold reading = true) :
    (s.heard reading).onFire = true := by
  unfold heard
  split
  · rfl
  · next hcold => exact h.resolve_right hcold

theorem phase_heard (reading : Single) :
    (s.heard reading).phase = s.alarm.phase := by
  unfold heard
  split
  · rfl
  · rfl

/-- A step keeps the order. -/
theorem ordered_of_step (hs : s.Ordered) (h : s.step act = some (s', said)) :
    s'.Ordered := by
  obtain ⟨hsensor, halarm⟩ := hs
  cases steps_of_step h with
  | alarmStarted hstep =>
      rw [← LogAlarm.closing_of_turn hstep (.inl rfl)] at halarm
      exact ⟨hsensor, halarm⟩
  | alarmWoken hstep =>
      rw [← LogAlarm.closing_of_turn hstep (.inr rfl)] at halarm
      exact ⟨hsensor, halarm⟩
  | sensorStarted hphase => exact ⟨hsensor, halarm⟩
  | sensorStopped hphase hclosing => exact ⟨hsensor, halarm⟩
  | sensorWoken hphase hclosing => exact ⟨hsensor, halarm⟩
  | detected hphase => exact ⟨hsensor, by rw [closing_heard]; exact halarm⟩
  | sensorClosed hmain =>
      rw [hmain] at halarm
      exact ⟨by simp, by simpa using halarm⟩
  | alarmClosed hmain =>
      rw [hmain] at hsensor
      exact ⟨by simpa using hsensor, by simp⟩
  | joined hmain =>
      rw [hmain] at hsensor halarm
      exact ⟨by simpa using hsensor, by simpa using halarm⟩

/-- No step changes the threshold. -/
theorem threshold_of_step (h : s.step act = some (s', said)) :
    s'.threshold = s.threshold := by
  cases steps_of_step h <;> rfl

/-- A closed sensor that is not in its receiver hands over nothing more. -/
theorem detect_not_mem_of_run (hclosing : s.sensor.closing = true)
    (hphase : ∀ n reading, s.sensor.phase ≠ .calling n () reading)
    (h : s.run acts = some (s', said)) : .detect ∉ acts := by
  induction acts generalizing s said with
  | nil => exact List.not_mem_nil
  | cons act rest ih =>
      obtain ⟨m, _, _, hstep, hrest, -⟩ := runs.cons_eq_some_iff.1 h
      have hkept : act ≠ .detect ∧ m.sensor.closing = true
          ∧ ∀ n reading, m.sensor.phase ≠ .calling n () reading := by
        cases steps_of_step hstep with
        | detected hcalling => exact absurd hcalling (hphase _ _)
        | sensorWoken hsleeping hopen => simp [hclosing] at hopen
        | sensorStarted hidle => exact ⟨nofun, hclosing, nofun⟩
        | sensorStopped hsleeping hclosed => exact ⟨nofun, hclosing, nofun⟩
        | sensorClosed hmain => exact ⟨nofun, rfl, hphase⟩
        | _ => exact ⟨nofun, hclosing, hphase⟩
      rw [List.mem_cons, not_or]
      exact ⟨hkept.1.symm, ih hkept.2.1 hkept.2.2 hrest⟩

-- ================================================================ notices

/-- The alarm is closed and its thread is not in it. -/
def AlarmReturned (s : Siren) : Prop :=
  s.alarm.closing = true ∧ s.alarm.phase = .idle

instance : DecidablePred AlarmReturned :=
  fun _ => inferInstanceAs (Decidable (_ ∧ _))

/-- The alarm has been entered while it was open, or will be. -/
def Entered (s : Siren) (rest : List SirenAct) : Prop :=
  s.alarm.phase = .waiting ∨ s.AlarmReturned
    ∨ s.alarm.closing = false ∧ ∃ before inside,
      rest = before ++ .startAlarm :: inside
        ∧ .closeAlarm ∉ before

/-- An alarm that has returned is silent for good. -/
theorem returned_of_step (hs : s.AlarmReturned)
    (h : s.step act = some (s', said)) :
    s'.AlarmReturned ∧ LogAlarm.notice ∉ said := by
  obtain ⟨hclosing, hidle⟩ := hs
  cases steps_of_step h with
  | alarmStarted hstep =>
      cases LogAlarm.steps_of_step hstep with
      | refused => exact ⟨⟨hclosing, hidle⟩, by decide⟩
      | begun hphase hopen => simp [hclosing] at hopen
  | alarmWoken hstep =>
      cases LogAlarm.steps_of_step hstep with
      | woken hwaiting => simp [hidle] at hwaiting
  | detected hphase =>
      refine ⟨⟨(closing_heard _).trans hclosing, (phase_heard _).trans hidle⟩,
        ?_⟩
      rw [List.mem_singleton]
      exact nofun
  | sensorStopped hphase hclosed => exact ⟨⟨hclosing, hidle⟩, by decide⟩
  | alarmClosed hmain => exact ⟨⟨rfl, hidle⟩, List.not_mem_nil⟩
  | _ => exact ⟨⟨hclosing, hidle⟩, List.not_mem_nil⟩

/-- Only the main thread closes the alarm. -/
theorem closing_of_step (h : s.step act = some (s', said))
    (hact : act ≠ .closeAlarm) :
    s'.alarm.closing = s.alarm.closing := by
  cases steps_of_step h with
  | alarmStarted hstep => exact LogAlarm.closing_of_turn hstep (.inl rfl)
  | alarmWoken hstep => exact LogAlarm.closing_of_turn hstep (.inr rfl)
  | detected hphase => exact closing_heard _
  | alarmClosed hmain => exact absurd rfl hact
  | _ => rfl

/-- Only the main thread closes the sensor. -/
theorem sensor_closing_of_step (h : s.step act = some (s', said))
    (hact : act ≠ .closeSensor) :
    s'.sensor.closing = s.sensor.closing := by
  cases steps_of_step h with
  | sensorClosed hmain => exact absurd rfl hact
  | _ => rfl

/-- An alarm that has returned was closed, and the sensor before it. -/
theorem mem_of_returned {threshold : Single}
    (h : (fresh threshold).run acts = some (s, said)) (hs : s.AlarmReturned) :
    .closeSensor ∈ acts ∧ .closeAlarm ∈ acts ∧ s.sensor.closing = true := by
  have hordered : s.Ordered :=
    runs.keeps ordered_of_step h (ordered_fresh threshold)
  have hsensor : s.sensor.closing = true := by
    rw [hordered.sensor]
    rcases hordered.alarm.1 hs.1 with hmain | hmain
    · simp [hmain]
    · simp [hmain]
  refine ⟨?_, ?_, hsensor⟩
  · refine runs.mem_of_change (P := fun s => s.sensor.closing = true)
      (fun hstep hopen hclosed => ?_)
      h (by simp [fresh, MockSensor.fresh]) hsensor
    exact Decidable.byContradiction fun hact =>
      hopen ((sensor_closing_of_step hstep hact).symm.trans hclosed)
  · refine runs.mem_of_change (P := fun s => s.alarm.closing = true)
      (fun hstep hopen hclosed => ?_) h (by simp [fresh, LogAlarm.fresh]) hs.1
    exact Decidable.byContradiction fun hact =>
      hopen ((closing_of_step hstep hact).symm.trans hclosed)

/-- A thread that waits goes on to wait, or returns when the alarm is closed. -/
theorem waiting_of_step (hs : s.alarm.phase = .waiting)
    (h : s.step act = some (s', said)) :
    s'.alarm.phase = .waiting ∨ s'.AlarmReturned := by
  cases steps_of_step h with
  | alarmStarted hstep =>
      cases LogAlarm.steps_of_step hstep with
      | refused hphase hclosing => simp [hs] at hphase
      | begun hphase hclosing => simp [hs] at hphase
  | alarmWoken hstep =>
      cases LogAlarm.steps_of_step hstep with
      | woken hphase =>
          cases hclosing : s.alarm.closing with
          | true =>
              exact .inr ⟨LogAlarm.closing_turned.trans hclosing,
                LogAlarm.phase_turned_of_closing hclosing⟩
          | false => exact .inl (LogAlarm.phase_turned_of_open hclosing)
  | detected hphase => exact .inl ((phase_heard _).trans hs)
  | _ => exact .inl hs

/-- A step takes what it did off what is still to come. -/
theorem entered_of_step (hs : s.Entered (act :: later))
    (h : s.step act = some (s', said)) :
    s'.Entered later := by
  rcases hs with hwaiting | hreturned | ⟨hopen, before, inside, hsplit, hbefore⟩
  · rcases waiting_of_step hwaiting h with hwaits | hreturns
    · exact .inl hwaits
    · exact .inr (.inl hreturns)
  · exact .inr (.inl (returned_of_step hreturned h).1)
  · cases before with
    | nil =>
        cases hsplit
        cases steps_of_step h with
        | alarmStarted hstep =>
            cases LogAlarm.steps_of_step hstep with
            | refused hphase hclosing => simp [hopen] at hclosing
            | begun hphase hclosing =>
                exact .inl (LogAlarm.phase_turned_of_open hopen)
    | cons first before =>
        cases hsplit
        rw [List.mem_cons, not_or] at hbefore
        have hkept := closing_of_step h (Ne.symm hbefore.1)
        exact .inr (.inr ⟨hkept.trans hopen, before, inside, rfl, hbefore.2⟩)

/-- A pending report stays pending or gets its notice, and the alarm does not
return before it. -/
theorem pending_of_step (hs : s.Entered (act :: later))
    (hpending : s.alarm.onFire = true) (hreturned : ¬s.AlarmReturned)
    (h : s.step act = some (s', said)) :
    LogAlarm.notice ∈ said ∨ s'.alarm.onFire = true ∧ ¬s'.AlarmReturned := by
  cases steps_of_step h with
  | alarmStarted hstep =>
      cases LogAlarm.steps_of_step hstep with
      | refused hphase hclosing => exact absurd ⟨hclosing, hphase⟩ hreturned
      | begun hphase hclosing =>
          exact .inl (LogAlarm.notice_mem_of_step hstep hpending
            LogAlarm.onFire_turned)
  | alarmWoken hstep =>
      have hquiet := LogAlarm.onFire_of_turn hstep (.inl rfl)
      exact .inl (LogAlarm.notice_mem_of_step hstep hpending hquiet)
  | detected hphase =>
      refine .inr ⟨onFire_heard (.inl hpending), fun hgone => hreturned ?_⟩
      exact ⟨(closing_heard _).symm.trans hgone.1,
        (phase_heard _).symm.trans hgone.2⟩
  | alarmClosed hmain =>
      refine .inr ⟨hpending, fun hgone => ?_⟩
      have hidle : s.alarm.phase = .idle := hgone.2
      -- the alarm has been entered by now, and so its thread waits
      rcases hs with hwaiting | hbefore | ⟨hopen, before, inside,
        hsplit, hbefore⟩
      · simp [hidle] at hwaiting
      · exact hreturned hbefore
      · cases before with
        | nil => cases hsplit
        | cons first before =>
            cases hsplit
            exact hbefore List.mem_cons_self
  | _ => exact .inr ⟨hpending, hreturned⟩

/-- A report that is pending while the alarm has not returned gets its notice
before it returns. -/
theorem noticed_of_run (hs : s.Entered acts) (hpending : s.alarm.onFire = true)
    (hreturned : ¬s.AlarmReturned) (h : s.run acts = some (s', said))
    (hidle : s'.alarm.phase = .idle) : LogAlarm.notice ∈ said := by
  induction acts generalizing s said with
  | nil =>
      cases h
      rcases hs with hwaiting | hbefore | ⟨-, before, inside, hsplit, -⟩
      · simp [hidle] at hwaiting
      · exact absurd hbefore hreturned
      · simp at hsplit
  | cons act rest ih =>
      obtain ⟨m, here, more, hstep, hrest, hsaid⟩ := runs.cons_eq_some_iff.1 h
      rw [show said = here ++ more from hsaid, List.mem_append]
      rcases pending_of_step hs hpending hreturned
        hstep with hnotice | ⟨hstill, hin⟩
      · exact .inl hnotice
      · exact .inr (ih (entered_of_step hs hstep) hstill hin hrest)

/-- After the alarm returned, no notice is given any more. -/
theorem silent_of_run (hs : s.AlarmReturned)
    (h : s.run acts = some (s', said)) :
    LogAlarm.notice ∉ said := by
  induction acts generalizing s said with
  | nil =>
      cases h
      exact List.not_mem_nil
  | cons act rest ih =>
      obtain ⟨m, here, more, hstep, hrest, hsaid⟩ := runs.cons_eq_some_iff.1 h
      obtain ⟨hkept, hsilent⟩ := returned_of_step hs hstep
      rw [show said = here ++ more from hsaid, List.mem_append, not_or]
      exact ⟨hsilent, ih hkept hrest⟩

/-- A run takes off what it did, step by step. -/
theorem entered_of_run (hs : s.Entered (first ++ later))
    (h : s.run first = some (s', said)) :
    s'.Entered later := by
  induction first generalizing s said with
  | nil =>
      cases h
      exact hs
  | cons act rest ih =>
      obtain ⟨m, _, _, hstep, hrest, -⟩ := runs.cons_eq_some_iff.1 h
      exact ih (entered_of_step hs hstep) hrest

-- ============================================================== crossings

/-- In every run of the appliance whose alarm is entered before it is closed,
once the alarm has returned: the report of a reading above the threshold is
followed by a notice just in case it came before the alarm returned. A later
one was on its way when the sensor and then the alarm were closed, no notice
follows it, and no other reading does. -/
theorem crossings_noticed {threshold : Single} {s m : Siren}
    {sooner : List Record} {n : Nat} {reading : Single}
    (hrun : (fresh threshold).run acts = some (s, said))
    (hentered : ∃ before inside,
      acts = before ++ .startAlarm :: inside ∧ .closeAlarm ∉ before)
    (hreturned : s.alarm.phase = .idle)
    (hsplit : acts = first ++ .detect :: later)
    (hfirst : (fresh threshold).run first = some (m, sooner))
    (hcalling : m.sensor.phase = .calling n () reading)
    (hhot : Detector.isHot threshold reading = true) :
    ∃ m' here after,
      m.step .detect = some (m', here) ∧ m'.run later = some (s, after)
      ∧ (LogAlarm.notice ∈ after ↔ ¬m.AlarmReturned)
      ∧ (m.AlarmReturned →
        .closeSensor ∈ first ∧ .closeAlarm ∈ first ∧ .detect ∉ later) := by
  rw [hsplit] at hrun hentered
  obtain ⟨m₀, _, _, hfirst', hrest, -⟩ := runs.append_eq_some_iff.1 hrun
  rw [hfirst] at hfirst'
  cases hfirst'
  obtain ⟨m', here, after, hstep, hlater, -⟩ := runs.cons_eq_some_iff.1 hrest
  have hm : m.Entered (.detect :: later) :=
    entered_of_run (.inr (.inr ⟨rfl, hentered⟩)) hfirst
  have hm' : m'.Entered later := entered_of_step hm hstep
  have hthreshold : m.threshold = threshold :=
    runs.keeps (P := fun s => s.threshold = threshold)
      (fun hs h => (threshold_of_step h).trans hs) hfirst rfl
  rw [← hthreshold] at hhot
  cases steps_of_step hstep with
  | detected hphase =>
      rw [hcalling] at hphase
      cases hphase
      -- hearing a reading does not bring the alarm back
      have hkept : AlarmReturned { m with
            alarm := m.heard reading
            sensor := { m.sensor with phase := .sleeping n } }
          ↔ m.AlarmReturned := by
        simp only [AlarmReturned, closing_heard, phase_heard]
      refine ⟨_, _, after, hstep, hlater,
        ⟨fun hnotice hgone => ?_, fun hin => ?_⟩, fun hgone => ?_⟩
      · exact silent_of_run (hkept.2 hgone) hlater hnotice
      · exact noticed_of_run hm' (onFire_heard (.inr hhot))
          (mt hkept.1 hin) hlater hreturned
      · obtain ⟨hsensor, halarm, hclosed⟩ := mem_of_returned hfirst hgone
        refine ⟨hsensor, halarm, detect_not_mem_of_run ?_ ?_ hlater⟩
        · exact hclosed
        · exact fun _ _ => nofun

/-- A reading of 22 degrees, with a threshold of 21, while both are open. -/
theorem crossings_noticed_while_open :
    ∃ (s m m' : Siren) (here after : List Record),
      m.sensor.phase = .calling 2 () (mockReading 1)
        ∧ Detector.isHot ⟨0x41a80000⟩ (mockReading 1) = true
        ∧ s.alarm.phase = .idle
        ∧ m.step .detect = some (m', here)
        ∧ m'.run [.closeSensor, .closeAlarm, .wakeAlarm, .wakeSensor, .join]
          = some (s, after)
        ∧ LogAlarm.notice ∈ after := by
  obtain ⟨s, said, hrun, hidle⟩ : ∃ s said, (fresh ⟨0x41a80000⟩).run
      ([.startSensor, .startAlarm, .wakeSensor, .detect, .wakeSensor]
        ++ .detect ::
        [.closeSensor, .closeAlarm, .wakeAlarm, .wakeSensor, .join])
          = some (s, said)
      ∧ s.alarm.phase = .idle := ⟨_, _, rfl, rfl⟩
  obtain ⟨m, sooner, hfirst, hcalling, hin⟩ : ∃ m sooner,
    (fresh ⟨0x41a80000⟩).run
      [.startSensor, .startAlarm, .wakeSensor, .detect, .wakeSensor]
        = some (m, sooner)
      ∧ m.sensor.phase = .calling 2 () (mockReading 1)
      ∧ m.alarm.phase = .waiting :=
    ⟨_, _, rfl, rfl, rfl⟩
  have hhot : Detector.isHot ⟨0x41a80000⟩ (mockReading 1) = true := by decide
  obtain ⟨m', here, after, hstep, hlater, hnotice, -⟩ :=
    crossings_noticed hrun ⟨[.startSensor], _, rfl, by decide⟩ hidle rfl hfirst
      hcalling hhot
  refine ⟨s, m, m', here, after, hcalling, hhot, hidle, hstep, hlater,
    hnotice.2 fun hgone => ?_⟩
  simp [AlarmReturned, hin] at hgone

/-- The third reading, of 316 degrees, is on its way while both are closed.
The alarm returns, the report comes in, all threads are joined, and there has
been no notice. -/
theorem crossing_lost_at_close :
    ∃ (acts first later : List SirenAct) (s m : Siren) (said sooner : List
      Record) (n : Nat) (reading : Single),
      (fresh Detector.standardThreshold).run acts = some (s, said)
        ∧ s.main = .finished
        ∧ (∃ before inside,
          acts = before ++ .startAlarm :: inside ∧ .closeAlarm ∉ before)
        ∧ acts = first ++ .detect :: later
        ∧ (fresh Detector.standardThreshold).run first = some (m, sooner)
        ∧ m.sensor.phase = .calling n () reading
        ∧ Detector.isHot Detector.standardThreshold reading = true
        ∧ s.alarm.onFire = true ∧ s.alarm.delivered = 0 := by
  exact ⟨_, [.startAlarm, .startSensor, .wakeSensor, .detect, .wakeSensor,
    .detect, .wakeSensor,
      .closeSensor, .closeAlarm, .wakeAlarm], [.wakeSensor, .join], _, _, _, _,
        3, mockReading 2,
    rfl, rfl, ⟨[], _, rfl, by decide⟩, rfl, rfl, rfl, by decide, rfl, rfl⟩

end Siren

end FireNet
