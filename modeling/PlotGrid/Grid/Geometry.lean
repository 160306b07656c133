import PlotGrid.Coord
import PlotGrid.Grid.Config

/-!
# Plot grid geometry

The resolved dimensions of a plot area: a cell of one plot and one road that repeats along both
axes, and the heights of its surfaces.

- `Geometry`: the dimensions.
- `AreaConfig.geometry`: resolve and check the dimensions of an area in a range of heights.
- `Geometry.size`, `Geometry.genHeight`: the edge of a cell, the number of heights.
- `Geometry.pathLower`, `Geometry.pathUpper`: where the walls stand within a cell.
-/

namespace PlotGrid

/-- The dimensions of a plot area. -/
structure Geometry where
  plotWidth : Int
  roadWidth : Int
  roadHeight : Int
  plotHeight : Int
  wallHeight : Int
  minGen : Int
  maxGen : Int
  minBuild : Int
  maxBuild : Int
  plotBedrock : Bool
  roadOffsetX : Int
  roadOffsetZ : Int
  deriving Repr, DecidableEq

/-- Why dimensions do not fit. -/
inductive GeometryError
  | floorAboveCeiling (floor ceiling : Int)
  | narrowPlot (width : Int)
  | negativeRoad (width : Int)
  | wideCell (size : Int)
  | heightOutside (field : String) (height floor ceiling : Int)
  deriving Repr, DecidableEq

/-- The greatest edge of a cell: a coordinate within a cell takes at most 15 bits. -/
def greatestSize : Int := 0x7FFF

namespace GeometryError

/-- The text of an error. -/
def message : GeometryError → String
  | .floorAboveCeiling floor ceiling =>
    s!"min_gen_height {floor} above max_gen_height {ceiling}"
  | .narrowPlot width => s!"plot_width {width} < 1"
  | .negativeRoad width => s!"road_width {width} < 0"
  | .wideCell size => s!"plot_width + road_width = {size} exceeds {greatestSize}"
  | .heightOutside field height floor ceiling =>
    s!"{field} {height} outside [{floor}, {ceiling}]"

end GeometryError

namespace AreaConfig

/-- The first surface that is not between two heights. -/
def surfaceOutside? (cfg : AreaConfig) (floor ceiling : Int) : Option GeometryError :=
  [("road_height", cfg.roadHeight), ("plot_height", cfg.plotHeight),
   ("wall_height", cfg.wallHeight)].findSome? fun (field, height) =>
    if height < floor ∨ ceiling < height then some (.heightOutside field height floor ceiling)
    else none

/-- Resolve the dimensions in a world that reaches from `worldMin` to `worldMax`, and check them
one after the other. -/
def geometry (cfg : AreaConfig) (worldMin worldMax : Int) :
    Checked (Except GeometryError Geometry) := do
  let minGen := cfg.minGenHeight.getD worldMin
  let maxGen := cfg.maxGenHeight.getD worldMax
  if minGen > maxGen then
    return .error (.floorAboveCeiling minGen maxGen)
  let aboveFloor ← Coord.add minGen 1
  if cfg.plotWidth < 1 then
    return .error (.narrowPlot cfg.plotWidth)
  if cfg.roadWidth < 0 then
    return .error (.negativeRoad cfg.roadWidth)
  let size ← Coord.add cfg.plotWidth cfg.roadWidth
  if size > greatestSize then
    return .error (.wideCell size)
  match cfg.surfaceOutside? minGen maxGen with
  | some e => return .error e
  | none =>
    return .ok {
      plotWidth := cfg.plotWidth
      roadWidth := cfg.roadWidth
      roadHeight := cfg.roadHeight
      plotHeight := cfg.plotHeight
      wallHeight := cfg.wallHeight
      minGen
      maxGen
      minBuild := max (cfg.minBuildHeight.getD aboveFloor) minGen
      maxBuild := min (cfg.maxBuildHeight.getD maxGen) maxGen
      plotBedrock := cfg.plotBedrock
      roadOffsetX := cfg.roadOffsetX
      roadOffsetZ := cfg.roadOffsetZ }

end AreaConfig

namespace Geometry

/-- The edge of a cell. -/
def size (g : Geometry) : Checked Int :=
  Coord.add g.plotWidth g.roadWidth

/-- The number of heights that are generated. -/
def genHeight (g : Geometry) : Checked Int := do
  let between ← Coord.sub g.maxGen g.minGen
  Coord.add between 1

/-- The wall at the low side of a plot. -/
def pathLower (g : Geometry) : Int :=
  if g.roadWidth % 2 = 0 then g.roadWidth.tdiv 2 - 1 else g.roadWidth.tdiv 2

/-- The wall at the high side of a plot; without a road it lies outside of the cell. -/
def pathUpper (g : Geometry) : Checked Int :=
  if g.roadWidth = 0 then do
    let size ← g.size
    Coord.add size 1
  else Coord.sum g.pathLower [g.plotWidth, 1]

end Geometry

end PlotGrid
