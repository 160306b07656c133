import PlotGrid.Fault

/-!
# Counts

Sizes of boxes and numbers of cells are naturals of 64 bits. They are kept as `Nat`; each sum and
product is checked against the range, so a result in hand is the mathematical one.

- `limit`: the first natural that is no count.
- `narrow`, `add`, `mul`: exact arithmetic that faults outside the range.
- `room`, `reserve`: the bytes of a table are counted with a sign.
-/

namespace PlotGrid.Count

/-- Counts are below this. -/
def limit : Nat := 18446744073709551616

/-- Accept a value that is a count. -/
def narrow (n : Nat) : Checked Nat :=
  if n < limit then .ok n else .error .overflow

/-- Checked sum. -/
def add (a b : Nat) : Checked Nat :=
  narrow (a + b)

/-- Checked product. -/
def mul (a b : Nat) : Checked Nat :=
  narrow (a * b)

/-- A table has fewer bytes than this. -/
def room : Nat := 9223372036854775808

/-- Make room for a table of `n` entries, each of so many bytes. -/
def reserve (bytes n : Nat) : Checked Unit :=
  if bytes * n < room then .ok () else .error .capacity

theorem narrow_eq_ok_iff {n m : Nat} : narrow n = .ok m ↔ n < limit ∧ m = n := by
  unfold narrow
  split
  · simp_all [eq_comm]
  · simp
    omega

theorem narrow_eq_error_iff {n : Nat} {f : Fault} :
    narrow n = .error f ↔ limit ≤ n ∧ f = .overflow := by
  unfold narrow
  split
  · simp
    omega
  · simp_all [eq_comm]

theorem reserve_eq_ok_iff {bytes n : Nat} : reserve bytes n = .ok () ↔ bytes * n < room := by
  unfold reserve
  split <;> simp_all

theorem reserve_eq_error_iff {bytes n : Nat} {f : Fault} :
    reserve bytes n = .error f ↔ room ≤ bytes * n ∧ f = .capacity := by
  unfold reserve
  split
  · simp
    omega
  · simp_all [eq_comm]

end PlotGrid.Count
