/-
Runs of a machine that reports while it steps. A run takes its steps one
after the other and collects what they report; it fails at the first step
that cannot be taken. What one step keeps, a run keeps, and what only one
kind of step can change has not changed without that step.
-/
import FireNet.Journal

set_option autoImplicit false

namespace FireNet

variable {σ α : Type} {step : σ → α → Option (σ × List Record)}
  {run : σ → List α → Option (σ × List Record)} {s s' : σ} {act : α}
  {acts before later : List α} {said : List Record}

/-- `run` takes the steps of a list. -/
structure Runs (step : σ → α → Option (σ × List Record))
    (run : σ → List α → Option (σ × List Record)) : Prop where
  nil (s : σ) : run s [] = some (s, [])
  cons (s : σ) (act : α) (rest : List α) : run s (act :: rest) = (do
    let (s, said) ← step s act
    let (s, more) ← run s rest
    some (s, said ++ more))

namespace Runs

/-- A run begins with its first step. -/
theorem cons_eq_some_iff (h : Runs step run) {result : σ × List Record} :
    run s (act :: later) = some result ↔
      ∃ m said more,
        step s act = some (m, said) ∧ run m later = some (result.1, more)
        ∧ result.2 = said ++ more := by
  simp only [h.cons, Option.bind_eq_bind, Option.bind_eq_some_iff]
  constructor
  · intro hall
    obtain ⟨⟨m, said⟩, hstep, ⟨c, more⟩, hrest, hresult⟩ := hall
    cases hresult
    exact ⟨m, said, more, hstep, hrest, rfl⟩
  · intro hall
    obtain ⟨m, said, more, hstep, hrest, hresult⟩ := hall
    obtain ⟨c, all⟩ := result
    cases hresult
    exact ⟨(m, said), hstep, (c, more), hrest, rfl⟩

/-- It can be cut anywhere. -/
theorem append_eq_some_iff (h : Runs step run) {result : σ × List Record} :
    run s (before ++ later) = some result ↔
      ∃ m said more,
        run s before = some (m, said) ∧ run m later = some (result.1, more)
        ∧ result.2 = said ++ more := by
  induction before generalizing s result with
  | nil =>
      obtain ⟨c, all⟩ := result
      rw [List.nil_append, h.nil]
      constructor
      · intro hall
        exact ⟨s, [], all, rfl, hall, rfl⟩
      · intro hall
        obtain ⟨m, said, more, hnone, hlater, hsaid⟩ := hall
        cases hnone
        cases hsaid
        exact hlater
  | cons act rest ih =>
      simp only [List.cons_append, h.cons_eq_some_iff, ih]
      constructor
      · intro hall
        obtain ⟨m, said, more, hstep, ⟨c, said', more', hrest, hlater, hmore⟩,
          hall⟩ := hall
        exact ⟨c, said ++ said', more', ⟨m, said, said', hstep, hrest, rfl⟩,
          hlater, by rw [hall, hmore, List.append_assoc]⟩
      · intro hall
        obtain ⟨c, _, more', ⟨m, said, said', hstep, hrest, rfl⟩, hlater,
          hall⟩ := hall
        exact ⟨m, said, said' ++ more', hstep,
          ⟨c, said', more', hrest, hlater, rfl⟩,
          by rw [hall, List.append_assoc]⟩

/-- What every step keeps. -/
theorem keeps (h : Runs step run) {P : σ → Prop}
    (hstep : ∀ {s act s' said}, P s → step s act = some (s', said) → P s')
    (hrun : run s acts = some (s', said)) (hs : P s) : P s' := by
  induction acts generalizing s said with
  | nil =>
      rw [h.nil] at hrun
      cases hrun
      exact hs
  | cons act rest ih =>
      obtain ⟨m, _, _, hfirst, hrest, -⟩ := h.cons_eq_some_iff.1 hrun
      exact ih hrest (hstep hs hfirst)

/-- What only one kind of step brings about. -/
theorem mem_of_change (h : Runs step run) {P : σ → Prop} [DecidablePred P]
    (hstep : ∀ {s a s' said},
      step s a = some (s', said) → ¬P s → P s' → a = act)
    (hrun : run s acts = some (s', said)) (hs : ¬P s) (hs' : P s') :
    act ∈ acts := by
  induction acts generalizing s said with
  | nil =>
      rw [h.nil] at hrun
      cases hrun
      exact absurd hs' hs
  | cons a rest ih =>
      obtain ⟨m, _, _, hfirst, hrest, -⟩ := h.cons_eq_some_iff.1 hrun
      by_cases hm : P m
      · rw [hstep hfirst hs hm]
        exact List.mem_cons_self
      · exact List.mem_cons_of_mem a (ih hrest hm)

end Runs

end FireNet
