import PlotGrid.Grid.Anchors
import PlotGrid.Grid.Cell
import PlotGrid.Voxel
import Std.Data.HashMap

/-!
# Overlays

An overlay is one cell of the plot grid with the fragments folded into it: a column of optional
voxels for each position that a fragment reaches, counted upwards from `Anchors.schemY`, and a
biome for each position that has one. It repeats with the cell.

- `Overlay`, `Overlay.empty?`
- `Overlay.column?`, `Overlay.biome?`, `Overlay.hasEntity`: the content at a position.
- `OverlaySummary`, `Overlay.summary`: the counts.
-/

namespace PlotGrid

/-- A column of an overlay; index 0 is at the height of the lowest fragment. -/
abbrev OverlayColumn := Array (Option Voxel)

/-- The fragments of one cell. -/
structure Overlay where
  size : Int
  anchors : Anchors
  /-- Plot columns take their content from here. -/
  hasPlot : Bool
  /-- Road and wall columns take their content from here. -/
  hasRoad : Bool
  columns : Std.HashMap Nat OverlayColumn
  biomes : Std.HashMap Nat BiomeTag

/-- The voxels of a column. -/
def OverlayColumn.voxels (c : OverlayColumn) : List Voxel :=
  c.toList.filterMap id

/-- The counts of an overlay. -/
structure OverlaySummary where
  columns : Nat
  voxels : Nat
  entityVoxels : Nat
  biomes : Nat
  hasPlot : Bool
  hasRoad : Bool
  anchors : Anchors
  deriving Repr, DecidableEq

/-- The text of the counts. -/
def OverlaySummary.text (s : OverlaySummary) : String :=
  s!"{s.columns} columns, {s.voxels} voxels ({s.entityVoxels} with entity data), " ++
  s!"{s.biomes} biomes, plot={s.hasPlot} road={s.hasRoad}, " ++
  s!"schem_y={s.anchors.schemY} plot_y={s.anchors.plotY} road_y={s.anchors.roadY}"

namespace Overlay

/-- An overlay without content. The cell has to have a positive size. -/
def empty? (size : Int) (anchors : Anchors) : Checked Overlay :=
  if size > 0 then .ok ⟨size, anchors, false, false, ∅, ∅⟩
  else .error (.violated s!"overlay section size must be positive, got {size}")

/-- There is neither a column nor a biome. -/
def isEmpty (o : Overlay) : Bool :=
  o.columns.isEmpty && o.biomes.isEmpty

/-- The column at a position. -/
def column? (o : Overlay) (x z : Int) : Option OverlayColumn :=
  o.columns[Cell.key o.size x z]?

/-- The biome at a position. -/
def biome? (o : Overlay) (x z : Int) : Option BiomeTag :=
  o.biomes[Cell.key o.size x z]?

/-- Whether the column at a position holds a voxel for the second pass. -/
def hasEntity (o : Overlay) (x z : Int) : Bool :=
  (o.column? x z).any fun c => c.voxels.any Voxel.isEntity

/-- All voxels of all columns, column by column. -/
def voxels (o : Overlay) : List Voxel :=
  o.columns.toList.flatMap fun c => c.2.voxels

/-- The counts. -/
def summary (o : Overlay) : OverlaySummary where
  columns := o.columns.size
  voxels := o.voxels.length
  entityVoxels := o.voxels.countP Voxel.isEntity
  biomes := o.biomes.size
  hasPlot := o.hasPlot
  hasRoad := o.hasRoad
  anchors := o.anchors

instance : BEq Overlay where
  beq a b :=
    a.size == b.size && a.anchors == b.anchors && a.hasPlot == b.hasPlot &&
      a.hasRoad == b.hasRoad && a.columns == b.columns && a.biomes == b.biomes

end Overlay

end PlotGrid
