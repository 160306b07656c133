import PlotGrid.Compass.Direction

/-!
# Bearings

Horizontal vectors `(x, z)` in double precision, with `+x` east and `+z` south, and the direction
closest to one. The quarter turn about the vertical axis takes `(x, z)` to `(z, -x)`.

- `Bearing.ofDirection`: the unit vector `(-sin a, cos a)` with `a = index * pi / 8`.
- `Bearing.closest`: the direction of the largest dot product among the selected kinds.
- `closest_turn_grade`, `closest_turn_every`: on the vectors of the rose, turning and looking for
  the closest direction is `Direction.quarterTurn`.
-/

namespace PlotGrid

/-- A horizontal vector. -/
structure Bearing where
  x : Float
  z : Float

namespace Bearing

/-- The bit patterns of `(-sin a, cos a)` for `a = index * pi / 8`. The table fixes the last bit of
each entry, which decides ties between directions. -/
def unitBits : List (UInt64 × UInt64) := [
  (0x8000000000000000, 0x3ff0000000000000),
  (0xbfd87de2a6aea963, 0x3fed906bcf328d46),
  (0xbfe6a09e667f3bcc, 0x3fe6a09e667f3bcd),
  (0xbfed906bcf328d46, 0x3fd87de2a6aea964),
  (0xbff0000000000000, 0x3c91a62633145c07),
  (0xbfed906bcf328d46, 0xbfd87de2a6aea962),
  (0xbfe6a09e667f3bcd, 0xbfe6a09e667f3bcc),
  (0xbfd87de2a6aea965, 0xbfed906bcf328d46),
  (0xbca1a62633145c07, 0xbff0000000000000),
  (0x3fd87de2a6aea961, 0xbfed906bcf328d47),
  (0x3fe6a09e667f3bcc, 0xbfe6a09e667f3bce),
  (0x3fed906bcf328d44, 0xbfd87de2a6aea96d),
  (0x3ff0000000000000, 0xbcaa79394c9e8a0a),
  (0x3fed906bcf328d45, 0x3fd87de2a6aea967),
  (0x3fe6a09e667f3bce, 0x3fe6a09e667f3bcb),
  (0x3fd87de2a6aea96e, 0x3fed906bcf328d44)]

/-- The unit vector of a direction. -/
def ofDirection (d : Direction) : Bearing :=
  let bits := unitBits.getD d.index.val (0, 0)
  ⟨Float.ofBits bits.1, Float.ofBits bits.2⟩

/-- A quarter turn about the vertical axis. -/
def turn (v : Bearing) : Bearing :=
  ⟨v.z, -v.x⟩

/-- Vectors no longer than this have no direction. -/
def shortest : Float :=
  Float.ofBits 0x3cb0000000000000

/-- The best direction so far, replaced only by one with a larger dot product: of two equal ones
the earlier stays. -/
def better (v : Bearing) (best : Option (Direction × Float)) (d : Direction) :
    Option (Direction × Float) :=
  let u := ofDirection d
  let dot := v.x * u.x + v.z * u.z
  match best with
  | none => some (d, dot)
  | some (_, held) => if dot > held then some (d, dot) else best

/-- The direction closest to a vector among the selected kinds. -/
def closest (v : Bearing) (kinds : Grade) : Option Direction :=
  let len := Float.sqrt (v.x * v.x + v.z * v.z)
  if len ≤ shortest then none
  else
    let unit : Bearing := ⟨v.x / len, v.z / len⟩
    ((Direction.all.filter fun d => d.grade &&& kinds != 0).foldl (better unit) none).map (·.1)

/-- A turned direction of the rose is found again among the directions of its own kind. -/
theorem closest_turn_grade (d : Direction) :
    closest (turn (ofDirection d)) d.grade = some d.quarterTurn := by
  obtain ⟨i⟩ := d
  revert i
  decide +kernel

/-- A turned direction of the rose is found again among all directions. -/
theorem closest_turn_every (d : Direction) :
    closest (turn (ofDirection d)) .every = some d.quarterTurn := by
  obtain ⟨i⟩ := d
  revert i
  decide +kernel

end Bearing

end PlotGrid
