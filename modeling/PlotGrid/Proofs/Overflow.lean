import PlotGrid.Coord

/-!
# Overflow as the only fault

Most computations over coordinates can stop for one reason only: a sum that is no coordinate. The
property is kept by sequences and loops, so it is proved along the computation. Where a table is
made there is a second kind of overflow: it has more bytes than can be addressed.

- `Fault.IsOverflow`, `Overflows`: overflows of either kind, and computations that stop at one.
- `OnlyFaults`: a computation that stops at some faults only.
- `OnlyFaults.bind`, `OnlyFaults.mapM`: sequences and loops.
- `OnlyOverflow`: a computation that stops at a number out of range or not at all.
- `OnlyFaults.add`, `OnlyFaults.sub`, `OnlyFaults.sum`, `OnlyFaults.residue`: arithmetic.
-/

namespace PlotGrid

/-- An overflow: a number is out of range, or there is no room for a table. -/
def Fault.IsOverflow (fault : Fault) : Prop :=
  fault = .overflow ∨ fault = .capacity

/-- A computation that stops at an overflow of either kind. -/
def Overflows {α : Type} (r : Checked α) : Prop :=
  ∃ fault, r = .error fault ∧ fault.IsOverflow

theorem not_overflows_ok {α : Type} (a : α) : ¬ Overflows (.ok a : Checked α) := by
  rintro ⟨fault, h, -⟩
  cases h

/-! ## Faults of one kind -/

/-- A computation that stops at faults of one kind or not at all. -/
def OnlyFaults {α : Type} (p : Fault → Prop) (r : Checked α) : Prop :=
  ∀ fault, r = .error fault → p fault

namespace OnlyFaults

variable {α β : Type} {p q : Fault → Prop}

theorem ok (a : α) : OnlyFaults p (.ok a : Checked α) := by
  intro fault h
  cases h

theorem mono {r : Checked α} (hr : OnlyFaults p r) (h : ∀ fault, p fault → q fault) :
    OnlyFaults q r :=
  fun fault hfault => h fault (hr fault hfault)

theorem bind {r : Checked α} {f : α → Checked β} (hr : OnlyFaults p r)
    (hf : ∀ a, r = .ok a → OnlyFaults p (f a)) : OnlyFaults p (r >>= f) := by
  cases r with
  | ok a => exact hf a rfl
  | error fault =>
    intro fault' h
    exact hr fault' (congrArg Except.error (Except.error.inj h))

theorem map {r : Checked α} (hr : OnlyFaults p r) (f : α → β) : OnlyFaults p (r.map f) := by
  cases r with
  | ok a => exact ok (f a)
  | error fault =>
    intro fault' h
    exact hr fault' (congrArg Except.error (Except.error.inj h))

theorem mapM {l : List α} {f : α → Checked β} (h : ∀ a ∈ l, OnlyFaults p (f a)) :
    OnlyFaults p (l.mapM f) := by
  induction l with
  | nil => exact ok []
  | cons a rest ih =>
    rw [List.mapM_cons]
    exact (h a List.mem_cons_self).bind fun _ _ =>
      (ih fun b hb => h b (List.mem_cons_of_mem a hb)).bind fun _ _ => ok _

theorem add (a b : Int) : OnlyFaults (· = .overflow) (Coord.add a b) :=
  fun _ h => (Coord.narrow_eq_error_iff.mp h).2

theorem sub (a b : Int) : OnlyFaults (· = .overflow) (Coord.sub a b) :=
  fun _ h => (Coord.narrow_eq_error_iff.mp h).2

theorem sum (a : Int) (bs : List Int) : OnlyFaults (· = .overflow) (Coord.sum a bs) := by
  induction bs generalizing a with
  | nil => exact ok a
  | cons b rest ih => exact (add a b).bind fun c _ => ih c

/-- A remainder by a positive number does not stop. -/
theorem residue {a b : Int} (hb : 0 < b) : OnlyFaults p (Coord.residue a b) := by
  rw [Coord.residue, if_neg (by omega), if_neg (by omega)]
  exact ok _

end OnlyFaults

/-- A computation that stops at a number out of range or not at all. -/
abbrev OnlyOverflow {α : Type} (r : Checked α) : Prop :=
  OnlyFaults (· = .overflow) r

/-- A computation that can only overflow and has no result overflows. -/
theorem OnlyFaults.overflows {α : Type} {r : Checked α} (hr : OnlyFaults Fault.IsOverflow r)
    (hnone : ∀ a, r ≠ .ok a) : Overflows r := by
  cases r with
  | ok a => exact absurd rfl (hnone a)
  | error fault => exact ⟨fault, rfl, hr fault rfl⟩

/-- A computation that can only overflow and does not has a result. -/
theorem OnlyOverflow.exists_eq_ok {α : Type} {r : Checked α} (hr : OnlyOverflow r)
    (hrun : r ≠ .error .overflow) : ∃ a, r = .ok a := by
  cases r with
  | ok a => exact ⟨a, rfl⟩
  | error fault =>
    rw [hr fault rfl] at hrun
    exact absurd rfl hrun

end PlotGrid
