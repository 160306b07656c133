import PlotGrid.Chunk.Buffer
import PlotGrid.Count
import PlotGrid.Grid.Geometry

/-!
# Columns of the plot grid

Every column of blocks belongs to a road, a wall or a plot, by its position within the cell.

- `ColumnKind`
- `relativeOffsets`: positions within the cell along one axis.
- `ColumnKind.classify`: the kind of a position.
- `Column`, `columnsOf`: the columns of a buffer with their kinds.
-/

namespace PlotGrid

/-- What a column belongs to. -/
inductive ColumnKind
  | road
  | wall
  | plot
  deriving Repr, DecidableEq

/-- The kind of a name. -/
def ColumnKind.ofName? : String → Option ColumnKind
  | "road" => some .road
  | "wall" => some .wall
  | "plot" => some .plot
  | _ => none

/-- The positions within a cell of `extent` columns from `start` on. -/
def relativeOffsets (start size : Int) (extent : Nat) : Checked (List Int) := do
  let first ← Coord.residue start size
  (List.range (Coord.wrap extent).toNat).mapM fun (i : Nat) => do
    let v ← Coord.add first i
    return if v ≥ size then v % size else v

/-- The place of one coordinate with respect to the walls. -/
def ColumnKind.ofAxis (v lower upper : Int) : ColumnKind :=
  if v < lower ∨ upper < v then .road
  else if v = lower ∨ v = upper then .wall
  else .plot

/-- The kind of a position: road if either coordinate is in a road, else wall if either is in a
wall, else plot. -/
def ColumnKind.classify (rx rz lower upper : Int) : ColumnKind :=
  match ofAxis rx lower upper, ofAxis rz lower upper with
  | .road, _ | _, .road => .road
  | .wall, _ | _, .wall => .wall
  | .plot, .plot => .plot

/-- A column of a buffer: its place there, its position within the cell, its kind. -/
structure Column where
  x : Nat
  z : Nat
  rx : Int
  rz : Int
  kind : ColumnKind
  deriving Repr, DecidableEq

/-- The bytes of a column in a list of columns. -/
def Column.bytes : Nat := 32

/-- The columns of a buffer, by `x` and then `z`. There has to be room for the list of all of
them. -/
def columnsOf (g : Geometry) (bottom : BlockPos) (width length : Nat) : Checked (List Column) := do
  let size ← g.size
  let upper ← g.pathUpper
  let startX ← Coord.sub bottom.x g.roadOffsetX
  let relX ← relativeOffsets startX size width
  let startZ ← Coord.sub bottom.z g.roadOffsetZ
  let relZ ← relativeOffsets startZ size length
  Count.reserve Column.bytes (← Count.mul relX.length relZ.length)
  return relX.zipIdx.flatMap fun (rx, x) => relZ.zipIdx.map fun (rz, z) =>
    { x, z, rx, rz, kind := .classify rx rz g.pathLower upper }

end PlotGrid
