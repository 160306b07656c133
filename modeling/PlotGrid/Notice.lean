/-!
# Notices

What a computation reports on its way, in order. Notices stay when the computation fails later.

- `Notice`: a text with its severity.
- `Logged`: a computation that reports notices and may fail.
-/

namespace PlotGrid

/-- How severe a notice is. -/
inductive Severity
  | error
  | warn
  | info
  | debug
  deriving Repr, DecidableEq

/-- The name of a severity. -/
def Severity.name : Severity → String
  | .error => "ERROR"
  | .warn => "WARN"
  | .info => "INFO"
  | .debug => "DEBUG"

/-- A reported text. -/
structure Notice where
  severity : Severity
  text : String
  deriving Repr, DecidableEq

/-- A notice as one line. -/
def Notice.line (n : Notice) : String :=
  n.severity.name ++ " " ++ n.text

/-- A computation that reports notices, the earliest first, and may fail. -/
abbrev Logged (ε : Type) := ExceptT ε (StateM (Array Notice))

namespace Logged

variable {ε α : Type}

/-- Report one notice, in any computation that keeps notices. -/
def report {m : Type → Type} [MonadState (Array Notice) m] (severity : Severity) (text : String) :
    m Unit :=
  modify fun notices => notices.push ⟨severity, text⟩

/-- Go on with a result or fail as it says. -/
def ofExcept (r : Except ε α) : Logged ε α :=
  ExceptT.mk (pure r)

/-- The outcome of a computation and its notices. -/
def exec (m : Logged ε α) : Except ε α × Array Notice :=
  m.run #[]

theorem run_ofExcept (r : Except ε α) (notices : Array Notice) :
    (ofExcept r : Logged ε α).run notices = (r, notices) :=
  rfl

/-- Reports for the entries of a list, in their order. -/
theorem run_forM_report {β : Type} (list : List β) (severity : Severity) (text : β → String)
    (notices : Array Notice) :
    (list.forM fun b => (report severity (text b) : Logged ε Unit)).run notices =
      (.ok (), notices ++ (list.map fun b => (⟨severity, text b⟩ : Notice)).toArray) := by
  induction list generalizing notices with
  | nil => simp [List.forM]; rfl
  | cons b rest ih =>
    show (rest.forM fun b => (report severity (text b) : Logged ε Unit)).run
      (notices.push ⟨severity, text b⟩) = _
    rw [ih, List.map_cons, ← List.singleton_append, ← List.append_toArray, ← Array.append_assoc]
    rfl

end Logged

end PlotGrid
