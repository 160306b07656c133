import PlotGrid.Count
import PlotGrid.Voxel

/-!
# Clips

A clip is a decoded fragment: a dense box of voxels with at most one biome for each column.

- `Clip.filled?`: a box of equal voxels without biomes.
- `Clip.index`, `Clip.index?`: the number of a cell, and its computation step by step.
- `Clip.voxel`, `Clip.setVoxel`, `Clip.biome`, `Clip.setBiome`: single cells. Only the number of a
  cell is checked, so a coordinate past its axis can lead to a cell of another row.
- `Clip.solidCount`, `Clip.sizeText`: the number of cells that are not air, and the edges as a text.
-/

namespace PlotGrid

/-- A box of voxels and the biomes of its columns. -/
structure Clip where
  width : Nat
  height : Nat
  length : Nat
  voxels : Vector Voxel (width * height * length)
  biomes : Vector (Option BiomeTag) (width * length)
  deriving DecidableEq

namespace Clip

/-- The bytes of a voxel in a table. -/
def voxelBytes : Nat := 6

/-- The bytes of a column's biome in a table. -/
def biomeBytes : Nat := 4

/-- A table of equal entries, each of so many bytes. -/
def table {α : Type} (bytes size : Nat) (a : α) : Checked (Vector α size) :=
  (Count.reserve bytes size).map fun _ => .replicate size a

/-- A box of equal voxels without biomes. -/
def filled? (width height length : Nat) (v : Voxel) : Checked Clip := do
  let _ ← Count.mul (← Count.mul width height) length
  let voxels ← table voxelBytes (width * height * length) v
  let _ ← Count.mul width length
  let biomes ← table biomeBytes (width * length) none
  return { width, height, length, voxels, biomes }

/-- The number of a cell. -/
def index (c : Clip) (x y z : Nat) : Nat :=
  (y * c.length + z) * c.width + x

/-- The number of a cell, computed step by step. -/
def index? (c : Clip) (x y z : Nat) : Checked Nat := do
  let row ← Count.add (← Count.mul y c.length) z
  Count.add (← Count.mul row c.width) x

/-- The number of a column. -/
def columnIndex (c : Clip) (x z : Nat) : Nat :=
  z * c.width + x

/-- The number of a column, computed step by step. -/
def columnIndex? (c : Clip) (x z : Nat) : Checked Nat := do
  Count.add (← Count.mul z c.width) x

/-- An entry of a table by its number. -/
def entry {α : Type} {n : Nat} (table : Vector α n) (i : Nat) : Checked α :=
  match table[i]? with
  | some a => .ok a
  | none => .error .outOfRange

/-- A table with another entry at a number. -/
def setEntry {α : Type} {n : Nat} (table : Vector α n) (i : Nat) (a : α) :
    Checked (Vector α n) :=
  if i < n then .ok (table.setIfInBounds i a) else .error .outOfRange

/-- The voxel of a cell. -/
def voxel (c : Clip) (x y z : Nat) : Checked Voxel :=
  (c.index? x y z).bind (entry c.voxels)

/-- The clip with another voxel in a cell. -/
def setVoxel (c : Clip) (x y z : Nat) (v : Voxel) : Checked Clip := do
  let voxels ← setEntry c.voxels (← c.index? x y z) v
  return { c with voxels }

/-- The biome of a column. -/
def biome (c : Clip) (x z : Nat) : Checked (Option BiomeTag) :=
  (c.columnIndex? x z).bind (entry c.biomes)

/-- The clip with another biome for a column. -/
def setBiome (c : Clip) (x z : Nat) (tag : Option BiomeTag) : Checked Clip := do
  let biomes ← setEntry c.biomes (← c.columnIndex? x z) tag
  return { c with biomes }

/-- The number of cells that are not air. -/
def solidCount (c : Clip) : Nat :=
  c.voxels.toList.countP fun v => !v.isAir

/-- The size of a clip as it is reported. -/
def sizeText (c : Clip) : String :=
  s!"{c.width}x{c.height}x{c.length}"

theorem index_eq_of_index? {c : Clip} {x y z i : Nat} (h : c.index? x y z = .ok i) :
    i = c.index x y z := by
  obtain ⟨rows, hrows, h⟩ := Checked.bind_eq_ok_iff.mp h
  obtain ⟨row, hrow, h⟩ := Checked.bind_eq_ok_iff.mp h
  obtain ⟨cells, hcells, h⟩ := Checked.bind_eq_ok_iff.mp h
  obtain ⟨-, rfl⟩ := Count.narrow_eq_ok_iff.mp hrows
  obtain ⟨-, rfl⟩ := Count.narrow_eq_ok_iff.mp hrow
  obtain ⟨-, rfl⟩ := Count.narrow_eq_ok_iff.mp hcells
  exact (Count.narrow_eq_ok_iff.mp h).2

theorem columnIndex_eq_of_columnIndex? {c : Clip} {x z i : Nat}
    (h : c.columnIndex? x z = .ok i) : i = c.columnIndex x z := by
  obtain ⟨cells, hcells, h⟩ := Checked.bind_eq_ok_iff.mp h
  obtain ⟨-, rfl⟩ := Count.narrow_eq_ok_iff.mp hcells
  exact (Count.narrow_eq_ok_iff.mp h).2

end Clip

end PlotGrid
