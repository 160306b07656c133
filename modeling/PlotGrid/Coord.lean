import PlotGrid.Fault

/-!
# Coordinates

Block coordinates, heights and widths are integers of 32 bits with sign. They are kept as `Int`;
each sum is checked against the range (`narrow`), so a result in hand is the mathematical one.
Only shifts and conversions reduce a value modulo `2 ^ 32` (`wrap`).

- `InRange`: the range of a coordinate.
- `narrow`, `add`, `sub`, `mul`: exact arithmetic that faults outside the range.
- `wrap`: the representative of a value modulo `2 ^ 32`.
- `residue`: the remainder that is never negative.
- `span`: the coordinates between two bounds.
-/

namespace PlotGrid.Coord

/-- The least coordinate. -/
def least : Int := -2147483648

/-- The greatest coordinate. -/
def greatest : Int := 2147483647

/-- The values that a coordinate can take. -/
def InRange (n : Int) : Prop :=
  least ≤ n ∧ n ≤ greatest

instance (n : Int) : Decidable (InRange n) :=
  inferInstanceAs (Decidable (_ ∧ _))

/-- Accept a value that is a coordinate. -/
def narrow (n : Int) : Checked Int :=
  if InRange n then .ok n else .error .overflow

/-- Checked sum. -/
def add (a b : Int) : Checked Int :=
  narrow (a + b)

/-- Checked difference. -/
def sub (a b : Int) : Checked Int :=
  narrow (a - b)

/-- Checked product. -/
def mul (a b : Int) : Checked Int :=
  narrow (a * b)

/-- Checked sum from left to right; each partial sum has to be a coordinate too. -/
def sum (a : Int) (bs : List Int) : Checked Int :=
  bs.foldlM add a

/-- The coordinate that agrees with `n` modulo `2 ^ 32`. -/
def wrap (n : Int) : Int :=
  n.bmod 4294967296

/-- The remainder of `a` by `b` that is never negative. -/
def residue (a b : Int) : Checked Int :=
  if b = 0 then .error .zeroDivisor
  else if a = least ∧ b = -1 then .error .overflow
  else .ok (a % b)

/-- All integers from `lo` to `hi`, both included. -/
def span (lo hi : Int) : List Int :=
  (List.range (hi + 1 - lo).toNat).map fun (i : Nat) => lo + (i : Int)

theorem inRange_iff {n : Int} : InRange n ↔ -2147483648 ≤ n ∧ n ≤ 2147483647 :=
  Iff.rfl

theorem narrow_eq_ok_iff {n m : Int} : narrow n = .ok m ↔ InRange n ∧ m = n := by
  unfold narrow
  split <;> simp_all [eq_comm]

theorem narrow_eq_error_iff {n : Int} {f : Fault} :
    narrow n = .error f ↔ ¬ InRange n ∧ f = .overflow := by
  unfold narrow
  split <;> simp_all [eq_comm]

theorem narrow_of_inRange {n : Int} (h : InRange n) : narrow n = .ok n :=
  narrow_eq_ok_iff.mpr ⟨h, rfl⟩

theorem add_eq_ok_iff {a b c : Int} : add a b = .ok c ↔ InRange (a + b) ∧ c = a + b :=
  narrow_eq_ok_iff

theorem sub_eq_ok_iff {a b c : Int} : sub a b = .ok c ↔ InRange (a - b) ∧ c = a - b :=
  narrow_eq_ok_iff

theorem sum_pair_eq_ok_iff {a b c n : Int} :
    sum a [b, c] = .ok n ↔ InRange (a + b) ∧ InRange (a + b + c) ∧ n = a + b + c := by
  simp only [sum, List.foldlM_cons, List.foldlM_nil, bind_pure, Checked.bind_eq_ok_iff,
    add_eq_ok_iff]
  constructor
  · rintro ⟨m, ⟨hm, rfl⟩, hn, rfl⟩
    exact ⟨hm, hn, rfl⟩
  · rintro ⟨hm, hn, rfl⟩
    exact ⟨a + b, ⟨hm, rfl⟩, hn, rfl⟩

/-- Reduction keeps a coordinate. -/
theorem wrap_of_inRange {n : Int} (h : InRange n) : wrap n = n := by
  obtain ⟨hlo, hhi⟩ := inRange_iff.mp h
  exact Int.bmod_eq_of_le (by omega) (by omega)

/-- A reduced value is a coordinate. -/
theorem wrap_inRange (n : Int) : InRange (wrap n) := by
  have hlo : -2147483648 ≤ n.bmod 4294967296 := Int.le_bmod (by decide)
  have hhi : n.bmod 4294967296 < 2147483648 := Int.bmod_lt (by decide)
  exact inRange_iff.mpr ⟨hlo, Int.le_of_lt_add_one hhi⟩

theorem mem_span {lo hi y : Int} : y ∈ span lo hi ↔ lo ≤ y ∧ y ≤ hi := by
  simp only [span, List.mem_map, List.mem_range]
  constructor
  · rintro ⟨i, hi', rfl⟩
    omega
  · intro h
    exact ⟨(y - lo).toNat, by omega, by omega⟩

end PlotGrid.Coord
