import PlotGrid.Coord

/-!
# Positions within a cell

A position within a cell is a pair of coordinates, packed into one number of 32 bits.

- `Cell.pair`, `Cell.unpair`: pack and unpack.
- `Cell.key`: the number of the position that a pair of coordinates comes to, modulo the size.
-/

namespace PlotGrid.Cell

/-- Two coordinates in one number, 16 bits each. -/
def pair (x z : Int) : Nat :=
  (x % 65536).toNat * 65536 + (z % 65536).toNat

/-- The two coordinates of a number. -/
def unpair (key : Nat) : Int × Int :=
  ((key / 65536 % 65536 : Nat), (key % 65536 : Nat))

/-- The position modulo the size of the cell, packed. -/
def key (size x z : Int) : Nat :=
  pair (x % size) (z % size)

theorem unpair_pair {x z : Int} (hx : 0 ≤ x ∧ x < 65536) (hz : 0 ≤ z ∧ z < 65536) :
    unpair (pair x z) = (x, z) := by
  unfold unpair pair
  ext <;> simp <;> omega

/-- Two positions have one number iff they agree modulo the size of the cell. -/
theorem key_eq_key_iff {size x z x' z' : Int} (hpos : 0 < size) (hsize : size ≤ 65536) :
    key size x z = key size x' z' ↔ x % size = x' % size ∧ z % size = z' % size := by
  have bound (n : Int) : 0 ≤ n % size ∧ n % size < 65536 :=
    ⟨Int.emod_nonneg n (by omega), Int.lt_of_lt_of_le (Int.emod_lt_of_pos n hpos) hsize⟩
  constructor
  · intro h
    have hu := congrArg unpair h
    rw [key, key, unpair_pair (bound x) (bound z), unpair_pair (bound x') (bound z')] at hu
    exact Prod.mk.injEq .. ▸ hu
  · rintro ⟨hx, hz⟩
    rw [key, key, hx, hz]

/-- A remainder in question is the number itself, or the number one cell further. -/
theorem emod_eq_iff {size c r : Int} (hr : 0 ≤ r ∧ r < size) (hc : -size ≤ c ∧ c < size) :
    c % size = r ↔ c = r ∨ c = r - size := by
  by_cases hneg : c < 0
  · rw [← Int.add_emod_right, Int.emod_eq_of_lt (by omega) (by omega)]
    omega
  · rw [Int.emod_eq_of_lt (by omega) (by omega)]
    omega

end PlotGrid.Cell
