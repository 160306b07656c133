/-!
# Faults

A computation over the plot grid either finishes or stops at a *fault*: a sum outside the
coordinate range, a remainder by zero, an index outside its table, or a broken precondition.
A fault is a value, so that a caller who keeps the work done so far can still hold it.

- `Fault`: the four causes.
- `Fault.violated`, `Fault.capacity`: a broken precondition, and one of them.
- `Fault.text`: how a fault is named in a notice.
- `Checked`: a result or the fault that prevented it.
-/

namespace PlotGrid

/-- Why a computation stopped. -/
inductive Fault
  /-- A sum, difference, product or negation left the coordinate range. -/
  | overflow
  /-- A remainder by zero. -/
  | zeroDivisor
  /-- An index outside its table. -/
  | outOfRange
  /-- A step gave up, with a text that says why, or without one. -/
  | stopped (reason : Option String)
  deriving Repr, DecidableEq, Inhabited

namespace Fault

/-- A broken precondition, with its text. -/
def violated (text : String) : Fault :=
  .stopped (some text)

/-- A table of more bytes than can be addressed. -/
def capacity : Fault :=
  violated "capacity overflow"

/-- The name of a fault in a notice. -/
def text : Fault → String
  | .overflow => "overflow"
  | .zeroDivisor => "div_zero"
  | .outOfRange => "index"
  | .stopped (some reason) => reason
  | .stopped none => "non-string panic payload"

end Fault

/-- A result, or the fault that prevented it. -/
abbrev Checked := Except Fault

namespace Checked

variable {ε α β : Type}

/-- A sequence has a result iff both steps have. -/
theorem bind_eq_ok_iff {r : Except ε α} {f : α → Except ε β} {b : β} :
    r >>= f = .ok b ↔ ∃ a, r = .ok a ∧ f a = .ok b := by
  cases r with
  | error e => simp [bind, Except.bind]
  | ok a => simp [bind, Except.bind]

/-- A sequence fails iff a step does, with all steps before it successful. -/
theorem bind_eq_error_iff {r : Except ε α} {f : α → Except ε β} {e : ε} :
    r >>= f = .error e ↔ r = .error e ∨ ∃ a, r = .ok a ∧ f a = .error e := by
  cases r with
  | error e' => simp [bind, Except.bind]
  | ok a => simp [bind, Except.bind]

/-- A mapped result comes from a result. -/
theorem map_eq_ok_iff {r : Except ε α} {f : α → β} {b : β} :
    r.map f = .ok b ↔ ∃ a, r = .ok a ∧ f a = b := by
  cases r with
  | error e => simp [Except.map]
  | ok a => simp [Except.map]

/-- A sequence with a state that stays when a step stops. -/
theorem run_bind {σ : Type} (m : ExceptT ε (StateM σ) α) (f : α → ExceptT ε (StateM σ) β) (s : σ) :
    (m >>= f).run s = match m.run s with
      | (.ok a, t) => (f a).run t
      | (.error e, t) => (.error e, t) := by
  show (ExceptT.bind m f).run s = _
  unfold ExceptT.bind ExceptT.mk ExceptT.run
  simp only [bind, StateT.bind, ExceptT.bindCont]
  cases m s with
  | mk r t => cases r <;> rfl

theorem run_bind_eq_ok_iff {σ : Type} {m : ExceptT ε (StateM σ) α} {f : α → ExceptT ε (StateM σ) β}
    {b : β} {s t : σ} :
    (m >>= f).run s = (.ok b, t) ↔ ∃ a u, m.run s = (.ok a, u) ∧ (f a).run u = (.ok b, t) := by
  rw [run_bind]
  constructor
  · intro h
    match hm : m.run s with
    | (.ok a, u) =>
      rw [hm] at h
      exact ⟨a, u, rfl, h⟩
    | (.error e, u) =>
      rw [hm] at h
      cases (Prod.mk.inj h).1
  · rintro ⟨a, u, hm, hf⟩
    rw [hm]
    exact hf

end Checked

end PlotGrid
