import PlotGrid.Fault
import PlotGrid.Notice

/-!
# Outcomes apart from notices

A computation that reports notices hardly ever looks at them: whatever was reported before, it ends
in the same way. The property is kept by sequences, so it is proved along the computation.

- `Logged.Yields`: a computation with an outcome that no earlier notice changes.
- `Logged.Yields.bind`, `Logged.Yields.bind_error`: sequences of steps that may stop at a fault.
- `Logged.Yields.attempt`, `Logged.Yields.attempt_error`: sequences of steps that may fail.
- `Logged.Steady`, `Logged.Steady.bind_eq_ok_iff`: computations that have such an outcome, and
  what their sequences end with.
- `Logged.Reports`: what a computation reports itself.
-/

namespace PlotGrid.Logged

variable {ε φ α β : Type}

/-- The computation has this outcome, whatever was reported before. -/
def Yields (m : Logged φ α) (r : Except φ α) : Prop :=
  ∀ notices, ∃ notices', m.run notices = (r, notices')

namespace Yields

theorem exec_eq {m : Logged φ α} {r : Except φ α} (h : m.Yields r) : m.exec.1 = r := by
  obtain ⟨notices, hrun⟩ := h #[]
  rw [exec, hrun]

theorem ok (a : α) : (pure a : Logged φ α).Yields (.ok a) :=
  fun notices => ⟨notices, rfl⟩

theorem ofExcept (r : Except φ α) : (Logged.ofExcept r).Yields r :=
  fun notices => ⟨notices, rfl⟩

theorem report (severity : Severity) (text : String) :
    (Logged.report severity text : Logged φ Unit).Yields (.ok ()) :=
  fun notices => ⟨notices.push ⟨severity, text⟩, rfl⟩

theorem reports (list : List β) (severity : Severity) (text : β → String) :
    (list.forM fun b => (Logged.report severity (text b) : Logged φ Unit)).Yields (.ok ()) :=
  fun notices => ⟨_, run_forM_report list severity text notices⟩

/-! ## Steps that may stop -/

theorem bind {m : Logged φ α} {f : α → Logged φ β} {a : α} {r : Except φ β}
    (hm : m.Yields (.ok a)) (hf : (f a).Yields r) : (m >>= f).Yields r := by
  intro notices
  obtain ⟨between, hbetween⟩ := hm notices
  obtain ⟨after, hafter⟩ := hf between
  refine ⟨after, ?_⟩
  rw [Checked.run_bind, hbetween]
  exact hafter

theorem bind_error {m : Logged φ α} {fault : φ} (hm : m.Yields (.error fault))
    (f : α → Logged φ β) : (m >>= f).Yields (.error fault) := by
  intro notices
  obtain ⟨after, hafter⟩ := hm notices
  exact ⟨after, by rw [Checked.run_bind, hafter]⟩

/-! ## Steps that may fail -/

theorem attempt {m : ExceptT ε (Logged φ) α} {f : α → ExceptT ε (Logged φ) β} {a : α}
    {r : Except φ (Except ε β)} (hm : m.run.Yields (.ok (.ok a))) (hf : (f a).run.Yields r) :
    (m >>= f).run.Yields r := by
  rw [ExceptT.run_bind]
  exact bind hm hf

theorem attempt_error {m : ExceptT ε (Logged φ) α} {e : ε} (hm : m.run.Yields (.ok (.error e)))
    (f : α → ExceptT ε (Logged φ) β) : (m >>= f).run.Yields (.ok (.error e)) := by
  rw [ExceptT.run_bind]
  exact bind hm (ok _)

theorem adapt {ε' : Type} {m : ExceptT ε (Logged φ) α} {r : Except ε α}
    (hm : m.run.Yields (.ok r)) (f : ε → ε') :
    (m.adapt f).run.Yields (.ok (r.mapError f)) :=
  bind hm (ok _)

end Yields

/-! ## Computations that do not look at notices -/

/-- The computation has an outcome that no earlier notice changes. -/
def Steady (m : Logged φ α) : Prop :=
  ∃ r, m.Yields r

namespace Steady

theorem yields {m : Logged φ α} (h : m.Steady) : m.Yields m.exec.1 := by
  obtain ⟨r, hr⟩ := h
  rw [hr.exec_eq]
  exact hr

theorem ok (a : α) : (pure a : Logged φ α).Steady :=
  ⟨_, .ok a⟩

theorem ofExcept (r : Except φ α) : (Logged.ofExcept r).Steady :=
  ⟨_, .ofExcept r⟩

theorem report (severity : Severity) (text : String) :
    (Logged.report severity text : Logged φ Unit).Steady :=
  ⟨_, .report severity text⟩

theorem bind {m : Logged φ α} {f : α → Logged φ β} (hm : m.Steady) (hf : ∀ a, (f a).Steady) :
    (m >>= f).Steady := by
  obtain ⟨r, hr⟩ := hm
  cases r with
  | ok a =>
    obtain ⟨r', hr'⟩ := hf a
    exact ⟨r', .bind hr hr'⟩
  | error fault => exact ⟨_, .bind_error hr f⟩

/-- A sequence has a result iff both steps have, each run on its own. -/
theorem bind_eq_ok_iff {m : Logged φ α} {f : α → Logged φ β} {b : β} (hm : m.Steady)
    (hf : ∀ a, (f a).Steady) :
    (m >>= f).exec.1 = .ok b ↔ ∃ a, m.exec.1 = .ok a ∧ (f a).exec.1 = .ok b := by
  have hyields := hm.yields
  cases hresult : m.exec.1 with
  | ok a =>
    rw [hresult] at hyields
    rw [(hyields.bind (hf a).yields).exec_eq]
    simp
  | error fault =>
    rw [hresult] at hyields
    rw [(hyields.bind_error f).exec_eq]
    simp

end Steady

/-! ## What is reported -/

/-- All notices that the computation adds satisfy a condition. -/
def Reports (P : Notice → Prop) (m : Logged φ α) : Prop :=
  ∀ notices, ∀ n ∈ (m.run notices).2, n ∈ notices ∨ P n

namespace Reports

variable {P : Notice → Prop}

theorem ok (a : α) : (pure a : Logged φ α).Reports P :=
  fun _ _ hn => .inl hn

theorem report {severity : Severity} {text : String} (h : P ⟨severity, text⟩) :
    (Logged.report severity text : Logged φ Unit).Reports P := by
  intro notices n hn
  rcases Array.mem_push.mp hn with hold | rfl
  · exact .inl hold
  · exact .inr h

theorem bind {m : Logged φ α} {f : α → Logged φ β} (hm : m.Reports P)
    (hf : ∀ a, (f a).Reports P) : (m >>= f).Reports P := by
  intro notices n hn
  rw [Checked.run_bind] at hn
  have hfirst := hm notices
  match hrun : m.run notices with
  | (.error fault, between) =>
    rw [hrun] at hn hfirst
    exact hfirst n hn
  | (.ok a, between) =>
    rw [hrun] at hn hfirst
    rcases hf a between n hn with hold | hnew
    · exact hfirst n hold
    · exact .inr hnew

end Reports

end PlotGrid.Logged
