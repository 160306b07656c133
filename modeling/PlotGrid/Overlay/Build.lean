import PlotGrid.Fragment.Set
import PlotGrid.Overlay.Basic
import PlotGrid.Registry.Turn

/-!
# Building overlays

Fragments are folded into a cell by a sequence of placements: the plot template in the middle of
the plot, then the road segment along one road and, turned, along the other, then the
intersection. Positions wrap around the cell. The first placement at a position makes its column
as high as its own fragment needs; a voxel that does not fit into the column is dropped.

- `Placement`: one voxel or biome for a position.
- `Fragments.placements`: the placements of a set of fragments, in order.
- `Draft`, `Draft.place`: an overlay on the way, and one step.
- `Overlay.build`: the overlay of a set of fragments.
-/

namespace PlotGrid

/-- What a fragment puts at a position. -/
inductive Placement
  /-- A voxel, perhaps turned, at a height of a column that is made this high if need be. -/
  | voxel (x y z : Int) (v : Voxel) (isTurned : Bool) (height : Nat)
  /-- The biome of the position; none takes an earlier one away. -/
  | biome (x z : Int) (tag : Option BiomeTag)
  deriving Repr, DecidableEq

/-! ## Placing -/

/-- An overlay on the way, with the voxels that were dropped: the first one for each height, with
the height of the column that was too short, the last one first. -/
structure Draft where
  overlay : Overlay
  dropped : List (Int × Nat)

namespace Draft

/-- The height of the column at a position, or else the height that it is going to be made. -/
def columnHeight (o : Overlay) (key height : Nat) : Nat :=
  (o.columns[key]?.map Array.size).getD height

/-- Put a voxel into a column, which is made if need be. -/
def putVoxel (o : Overlay) (key : Nat) (y : Int) (v : Voxel) (height : Nat) : Overlay :=
  { o with
    columns := o.columns.alter key fun held =>
      let column := held.getD (Array.replicate height none)
      some (if 0 ≤ y then column.setIfInBounds y.toNat (some v) else column) }

/-- Put or take away a biome. -/
def putBiome (o : Overlay) (key : Nat) (tag : Option BiomeTag) : Overlay :=
  { o with
    biomes :=
      match tag with
      | some t => o.biomes.insert key t
      | none => o.biomes.erase key }

/-- Remember a dropped voxel, once for each height. -/
def drop (dropped : List (Int × Nat)) (y : Int) (height : Nat) : List (Int × Nat) :=
  if dropped.any (fun d => d.1 == y) then dropped else (y, height) :: dropped

/-- Carry out one placement. -/
def place (reg : Registry) (d : Draft) : Placement → Draft
  | .biome x z tag => { d with overlay := putBiome d.overlay (Cell.key d.overlay.size x z) tag }
  | .voxel x y z v isTurned height =>
    let key := Cell.key d.overlay.size x z
    let held := columnHeight d.overlay key height
    let v := if isTurned then reg.turn v else v
    { overlay := putVoxel d.overlay key y v height
      dropped := if 0 ≤ y ∧ y < held then d.dropped else drop d.dropped y held }

/-- Carry out placements up to the first one whose position could not be computed. -/
def placeAll (reg : Registry) (d : Draft) : List (Checked Placement) → Draft × Option Fault
  | [] => (d, none)
  | .error f :: _ => (d, some f)
  | .ok p :: rest => placeAll reg (d.place reg p) rest

/-- The notice for a dropped voxel. -/
def dropNotice (y : Int) (height : Nat) : String :=
  s!"Error adding overlay block. `y > height`. y={y}, height={height}"

end Draft

/-! ## Placements -/

namespace Clip

/-- The voxel of a cell inside the box. -/
def cell (c : Clip) (x y z : Nat) : Voxel :=
  c.voxels.getD (c.index x y z) .air

/-- The biome of a column inside the box. -/
def biomeAt (c : Clip) (x z : Nat) : Option BiomeTag :=
  c.biomes.getD (c.columnIndex x z) none

/-- The width of a clip as a coordinate. -/
def coordWidth (c : Clip) : Int :=
  Coord.wrap c.width

/-- The height of a clip as a coordinate. -/
def coordHeight (c : Clip) : Int :=
  Coord.wrap c.height

/-- The length of a clip as a coordinate. -/
def coordLength (c : Clip) : Int :=
  Coord.wrap c.length

/-- The columns of a clip by `x` and `z`. -/
def columnList (c : Clip) : List (Nat × Nat) :=
  if c.coordLength ≤ 0 then []
  else
    (List.range c.coordWidth.toNat).flatMap fun x =>
      (List.range c.coordLength.toNat).map fun z => (x, z)

/-- The cells of a column that are not air, from below, with their heights. -/
def solids (c : Clip) (x z : Nat) : List (Nat × Voxel) :=
  (List.range c.coordHeight.toNat).filterMap fun y =>
    let v := c.cell x y z
    if v.isAir then none else some (y, v)

end Clip

namespace Placement

/-- A voxel whose position is computed from the given sums. -/
def voxelAt (x y z : Checked Int) (v : Voxel) (isTurned : Bool) (height : Nat) :
    Checked Placement := do
  return .voxel (← x) (← y) (← z) v isTurned height

/-- A biome whose position is computed from the given sums. -/
def biomeAt (x z : Checked Int) (tag : Option BiomeTag) : Checked Placement := do
  return .biome (← x) (← z) tag

end Placement

/-- Where a fragment's column goes. -/
abbrev ColumnTarget := Nat → Nat → Checked Int × Checked Int

/-- The placements of a clip whose columns each go to several targets, turned or not: cell by cell
from below, then the biome. -/
def Clip.placements (c : Clip) (base : Int) (height : Nat) (targets : List (ColumnTarget × Bool)) :
    List (Checked Placement) :=
  c.columnList.flatMap fun (x, z) =>
    ((c.solids x z).flatMap fun (y, v) =>
      targets.map fun (target, isTurned) =>
        Placement.voxelAt (target x z).1 (Coord.add y base) (target x z).2 v isTurned height) ++
    targets.map fun (target, _) =>
      Placement.biomeAt (target x z).1 (target x z).2 (c.biomeAt x z)

namespace Geometry

/-- Half of the road's width. -/
def shift (g : Geometry) : Int :=
  g.roadWidth.tdiv 2

/-- One for a road of odd width. -/
def oddShift (g : Geometry) : Int :=
  g.roadWidth % 2

/-- The target of the plot template: the middle of the plot. -/
def plotTarget (g : Geometry) (centerX centerZ : Int) : ColumnTarget := fun x z =>
  let start := g.shift + g.oddShift
  (Coord.sum x [start, centerX], Coord.sum z [start, centerZ])

/-- The target of the road segment. -/
def roadTarget (g : Geometry) : ColumnTarget := fun x z =>
  (Coord.sub x g.shift, Coord.sum z [g.shift, g.oddShift])

/-- The target of the turned road segment. -/
def turnedTarget (g : Geometry) : ColumnTarget := fun x z =>
  (Coord.sum z [g.shift, g.oddShift],
   do Coord.add (← Coord.sub g.shift x) (g.oddShift - 1))

/-- The target of the intersection. -/
def crossingTarget (g : Geometry) : ColumnTarget := fun x z =>
  (Coord.sub x g.shift, Coord.sub z g.shift)

end Geometry

/-- A list that could not be computed counts as its fault. -/
def orFault {α : Type} : Checked (List (Checked α)) → List (Checked α)
  | .ok list => list
  | .error f => [.error f]

namespace Fragments

/-- The placements of the plot template. -/
def plotPlacements (g : Geometry) (a : Anchors) (c : Clip) : List (Checked Placement) :=
  orFault do
    let roomX ← Coord.sub g.plotWidth c.coordWidth
    let roomZ ← Coord.sub g.plotWidth c.coordLength
    let height ← Coord.add a.plotY c.coordHeight
    return c.placements a.plotY height.toNat
      [(g.plotTarget (roomX.tdiv 2) (roomZ.tdiv 2), false)]

/-- The placements of a road fragment. -/
def roadPlacements (a : Anchors) (extra : Int) (targets : List (ColumnTarget × Bool)) (c : Clip) :
    List (Checked Placement) :=
  orFault do
    let height ← Coord.sum a.roadY [c.coordHeight, extra]
    return c.placements a.roadY height.toNat targets

/-- Room above a road fragment for a road that is higher than its wall. -/
def extraRoom (g : Geometry) (s : SchematicSettings) : Checked Int :=
  if s.useWall then .ok 0
  else (Coord.sub g.roadHeight g.wallHeight).map fun n => max n 0

/-- There are road fragments, and roads to put them on. -/
def hasRoad (f : Fragments) (g : Geometry) : Bool :=
  (f.sideroad.isSome || f.intersection.isSome) && g.roadWidth != 0

/-- The plot template reaches beyond the plot. -/
def plotOverhangs (f : Fragments) (g : Geometry) : Bool :=
  f.plot.any fun c =>
    c.coordWidth > g.plotWidth || c.coordLength > g.plotWidth || c.coordHeight > g.plotWidth

/-- All placements in order. -/
def placements (f : Fragments) (g : Geometry) (s : SchematicSettings) (a : Anchors) :
    List (Checked Placement) :=
  (f.plot.map (plotPlacements g a)).getD [] ++
    if f.hasRoad g then
      orFault do
        let extra ← extraRoom g s
        let arms := [(g.roadTarget, false), (g.turnedTarget, true)]
        let crossing := [(g.crossingTarget, false)]
        return (f.sideroad.map (roadPlacements a extra arms)).getD [] ++
          (f.intersection.map (roadPlacements a extra crossing)).getD []
    else []

/-- The anchors of a set of fragments. -/
def anchors (f : Fragments) (g : Geometry) (s : SchematicSettings) : Checked Anchors :=
  Anchors.compute g s (f.plot.map Clip.coordHeight)
    ((f.sideroad.or f.intersection).map Clip.coordHeight)

end Fragments

namespace Overlay

/-- The overlay before the first placement. -/
def start (g : Geometry) (s : SchematicSettings) (f : Fragments) : Checked Overlay := do
  let anchors ← f.anchors g s
  let size ← g.size
  let blank ← empty? size anchors
  return { blank with hasPlot := f.plot.isSome, hasRoad := f.plotOverhangs g || f.hasRoad g }

/-- The overlay of a set of fragments. Dropped voxels are reported. -/
def build (reg : Registry) (g : Geometry) (s : SchematicSettings) (f : Fragments) :
    Logged Fault Overlay := do
  let blank ← Logged.ofExcept (start g s f)
  let (draft, fault) := Draft.placeAll reg ⟨blank, []⟩ (f.placements g s blank.anchors)
  draft.dropped.reverse.forM fun (y, height) =>
    Logged.report .error (Draft.dropNotice y height)
  match fault with
  | some fault => throw fault
  | none => return draft.overlay

end Overlay

end PlotGrid
