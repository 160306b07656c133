import PlotGrid.Grid.Geometry

/-!
# Anchors

Where fragments start vertically. `schemY` is the absolute height of the lowest fragment; the
other two are counted from there.

- `Anchors`
- `Anchors.compute`: the anchors for the heights of the plot template and the road fragments.
-/

namespace PlotGrid

/-- The starting heights of fragments. -/
structure Anchors where
  schemY : Int
  plotY : Int
  roadY : Int
  deriving Repr, DecidableEq

namespace Anchors

/-- The surface of the roads as fragments see it. -/
def roadSurface (g : Geometry) (s : SchematicSettings) : Int :=
  if s.useWall then min g.roadHeight g.wallHeight else g.roadHeight

/-- Where road fragments of a height start, and whether that is on the floor. -/
def roadStart (g : Geometry) (s : SchematicSettings) (full h : Int) : Int × Bool :=
  if h = full then (g.minGen, true)
  else if !s.pasteRoadOnTop then (g.minBuild, true)
  else (roadSurface g s, false)

/-- Where a plot template of a height starts. One that would start on the building floor starts at
the plot's surface if the road lies on the floor. -/
def plotStart (g : Geometry) (s : SchematicSettings) (full h : Int) (roadOnFloor : Bool) : Int :=
  if h = full then g.minGen
  else if s.pasteOnTop ∨ roadOnFloor then g.plotHeight
  else g.minBuild

/-- The anchors for a plot template and road fragments of the given heights, where present. The
road's height is that of the road segment, or of the intersection if there is only that. -/
def compute (g : Geometry) (s : SchematicSettings) (plotHeight roadHeight : Option Int) :
    Checked Anchors := do
  let full ← g.genHeight
  let road := roadHeight.map (roadStart g s full)
  let plot := plotHeight.map fun h => plotStart g s full h (road.any (·.2))
  let schemY :=
    match plot, road with
    | some p, some (r, _) => min p r
    | some p, none => p
    | none, some (r, _) => r
    | none, none => min g.plotHeight (roadSurface g s)
  let plotY ← Coord.sub (plot.getD g.plotHeight) schemY
  let roadY ← Coord.sub ((road.map (·.1)).getD (roadSurface g s)) schemY
  return { schemY, plotY, roadY }

end Anchors

end PlotGrid
