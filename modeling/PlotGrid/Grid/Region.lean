import PlotGrid.Coord
import PlotGrid.Grid.Config

/-!
# Regions

A region is a rectangle of block columns, its bounds included.

- `Region.ofCorners`: the region between two corners.
- `Region.contains`, `Region.intersectsChunk`, `Region.isWholeChunk`
-/

namespace PlotGrid

/-- A rectangle of block columns, bounds included. -/
structure Region where
  minX : Int
  minZ : Int
  maxX : Int
  maxZ : Int
  deriving Repr, DecidableEq

namespace Region

/-- The region between two corners. -/
def ofCorners (c : Corners) : Region :=
  ⟨min c.first.1 c.second.1, min c.first.2 c.second.2,
   max c.first.1 c.second.1, max c.first.2 c.second.2⟩

/-- The first block coordinate of a chunk along one axis, reduced to a coordinate. -/
def chunkOrigin (c : Int) : Int :=
  Coord.wrap (c * 16)

/-- A column of the region. -/
def contains (r : Region) (x z : Int) : Bool :=
  r.minX ≤ x && x ≤ r.maxX && r.minZ ≤ z && z ≤ r.maxZ

/-- The first column of a chunk lies within the region and on none of its bounds. -/
def isWholeChunk (r : Region) (cx cz : Int) : Bool :=
  let bx := chunkOrigin cx
  let bz := chunkOrigin cz
  r.minX < bx && r.minZ < bz && bx < r.maxX && bz < r.maxZ

/-- The chunk shares a column with the region. -/
def intersectsChunk (r : Region) (cx cz : Int) : Bool :=
  let bx := chunkOrigin cx
  let bz := chunkOrigin cz
  bx ≤ r.maxX && r.minX ≤ bx + 15 && bz ≤ r.maxZ && r.minZ ≤ bz + 15

end Region

end PlotGrid
