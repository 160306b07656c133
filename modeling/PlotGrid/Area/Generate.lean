import PlotGrid.Area.Basic
import PlotGrid.Grid.Column

/-!
# Generating the columns of an area

The first pass fills roads, walls and plots with the area's blocks and puts the overlay on top,
except for its entity voxels; the second pass places those.

- `Generator`: two passes over a buffer for an area.
- `Generator.hybrid`: blocks and overlay.
- `Area.surface`: the uppermost voxel of a column without fragments.
-/

namespace PlotGrid

/-- A way to fill the buffer of an area. The second pass tells whether it wrote anything. -/
structure Generator where
  generate : Area → Fill Unit
  populate : Area → Fill Bool

/-- The heights of a buffer, both included. -/
structure HeightRange where
  least : Int
  greatest : Int
  deriving Repr, DecidableEq

namespace HeightRange

/-- The heights of a buffer. -/
def ofBuffer (b : Buffer) : HeightRange :=
  ⟨b.bottom.y, b.top.y⟩

/-- A height of the range. -/
def contains (h : HeightRange) (y : Int) : Bool :=
  h.least ≤ y && y ≤ h.greatest

/-- Write a pattern to the heights from `lo` to `hi` that are in the range. -/
def fill (h : HeightRange) (x z : Nat) (lo hi : Int) (p : Pattern) : Fill Unit :=
  (Coord.span (max lo h.least) (min hi h.greatest)).forM fun y => Fill.pattern x y z p

/-- Write a pattern to one height if it is in the range. -/
def put (h : HeightRange) (x z : Nat) (y : Int) (p : Pattern) : Fill Unit :=
  if h.contains y then Fill.pattern x y z p else pure ()

end HeightRange

namespace Overlay

/-- Whether columns of a kind take their content from the overlay. -/
def appliesTo (o : Overlay) : ColumnKind → Bool
  | .road | .wall => o.hasRoad
  | .plot => o.hasPlot

/-- Write one cell of an overlay column, if it belongs to this pass and its height is in the range;
the result tells whether it was written. -/
def stampCell (o : Overlay) (h : HeightRange) (x z : Nat) (entities : Bool)
    (cell : Option Voxel × Nat) : Fill Bool :=
  match cell.1 with
  | none => pure false
  | some v =>
    if v.isEntity != entities then pure false
    else do
      let y ← Fill.lift (Coord.add o.anchors.schemY (Coord.wrap cell.2))
      if h.contains y then
        Fill.voxel x y z v
        return true
      else return false

/-- Write an overlay column: its entity voxels or all others. The result tells whether anything
was written. -/
def stamp (o : Overlay) (h : HeightRange) (c : Column) (entities : Bool) : Fill Bool :=
  match o.column? c.rx c.rz with
  | none => pure false
  | some column =>
    column.toList.zipIdx.foldlM (fun wrote cell => do
      return (← o.stampCell h c.x c.z entities cell) || wrote) false

end Overlay

namespace Area

/-- The lowest height above the floor. -/
def aboveFloor (a : Area) : Checked Int :=
  if a.blocks.bedrock.isSome then Coord.add a.geometry.minGen 1 else .ok a.geometry.minGen

/-- Write the area's blocks to a column that starts at a height. -/
def fillColumn (a : Area) (h : HeightRange) (lowest : Int) (c : Column) : Fill Unit :=
  let g := a.geometry
  match c.kind with
  | .road => h.fill c.x c.z lowest g.roadHeight a.blocks.road.pick
  | .wall => do
    h.fill c.x c.z lowest g.wallHeight a.blocks.wallFilling.pick
    if !a.overlay.hasRoad then
      let cap ← Fill.lift (Coord.add g.wallHeight 1)
      h.put c.x c.z cap a.blocks.wall.pick
  | .plot => do
    let below ← Fill.lift (Coord.sub g.plotHeight 1)
    h.fill c.x c.z lowest below a.blocks.main.pick
    h.put c.x c.z g.plotHeight a.blocks.top.pick

/-- Write the floor of a column. -/
def floorColumn (a : Area) (h : HeightRange) (c : Column) : Fill Unit :=
  match a.blocks.bedrock with
  | some v => h.put c.x c.z a.geometry.minGen (.const v)
  | none => pure ()

/-- Write what the overlay has for a column in the first pass. -/
def overlayColumn (a : Area) (h : HeightRange) (c : Column) : Fill Unit :=
  if a.overlay.appliesTo c.kind then do
    let _ ← a.overlay.stamp h c false
    match a.overlay.biome? c.rx c.rz with
    | some tag =>
      let _ ← Fill.biomeColumn c.x c.z tag
    | none => pure ()
  else pure ()

/-- Write all of a column in the first pass: floor, blocks, overlay. -/
def generateColumn (a : Area) (h : HeightRange) (lowest : Int) (c : Column) : Fill Unit := do
  a.floorColumn h c
  a.fillColumn h lowest c
  a.overlayColumn h c

/-- The positions of a box by `x` and `z`. -/
def positions (width length : Nat) : List (Nat × Nat) :=
  (List.range width).flatMap fun x => (List.range length).map fun z => (x, z)

/-- Write the area's biome to all columns. -/
def generateBiomes (a : Area) (width length : Nat) : Fill Unit :=
  match a.biome with
  | none => pure ()
  | some tag => (positions width length).forM fun (x, z) => do
    let _ ← Fill.biomeColumn x z tag

/-- The first pass. -/
def generate (a : Area) : Fill Unit := do
  let (bottom, width, length) ← Fill.inspect fun b => (b.bottom, b.width, b.length)
  let h ← Fill.inspect HeightRange.ofBuffer
  let lowest ← Fill.lift a.aboveFloor
  a.generateBiomes width length
  let columns ← Fill.lift (columnsOf a.geometry bottom width length)
  columns.forM (a.generateColumn h lowest)

/-- Write the entity voxels of a column. -/
def populateColumn (a : Area) (h : HeightRange) (c : Column) : Fill Bool :=
  if a.overlay.appliesTo c.kind && a.overlay.hasEntity c.rx c.rz then a.overlay.stamp h c true
  else pure false

/-- The second pass. -/
def populate (a : Area) : Fill Bool := do
  if !a.overlay.hasRoad && !a.overlay.hasPlot then return false
  let (bottom, width, length) ← Fill.inspect fun b => (b.bottom, b.width, b.length)
  let h ← Fill.inspect HeightRange.ofBuffer
  let columns ← Fill.lift (columnsOf a.geometry bottom width length)
  columns.foldlM (fun wrote c => do return (← a.populateColumn h c) || wrote) false

/-- The uppermost voxel of a column without fragments, with its height. -/
def surface (a : Area) (kind : ColumnKind) (x z : Int) : Checked (Int × Voxel) := do
  let g := a.geometry
  match kind with
  | .road => return (g.roadHeight, a.blocks.road.pick x g.roadHeight z)
  | .wall =>
    let cap ← Coord.add g.wallHeight 1
    return (cap, a.blocks.wall.pick x cap z)
  | .plot => return (g.plotHeight, a.blocks.top.pick x g.plotHeight z)

end Area

/-- The area's blocks with its overlay on top. -/
def Generator.hybrid : Generator :=
  ⟨Area.generate, Area.populate⟩

end PlotGrid
