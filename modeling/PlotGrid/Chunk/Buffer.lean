import PlotGrid.Chunk.Cells
import PlotGrid.Coord
import PlotGrid.Voxel

/-!
# Write buffers

A buffer collects the content of a box of columns: voxels, and biomes if it tracks them. `x` and
`z` count from the bottom corner, heights are absolute.

- `Buffer.new?`, `Buffer.forChunk?`: an empty buffer for two corners or for a chunk.
- `Buffer.write`, `Buffer.writeBiome`, `Buffer.writeBiomeColumn`: the writes. Each gives its
  outcome together with the buffer after it, for a write that fails leaves its traces too.
- `Buffer.voxel?`, `Buffer.biome?`: the value of a cell.
- `Buffer.voxelList`, `Buffer.layerCount`, `Buffer.isEmpty`: the whole content.
- `Fill`: a computation that writes to a buffer and may stop at a fault; what it wrote stays.
-/

namespace PlotGrid

/-- An absolute position. -/
structure BlockPos where
  x : Int
  y : Int
  z : Int
  deriving Repr, DecidableEq, Inhabited

namespace BlockPos

/-- The text of a position in the message of a broken precondition. -/
def text (p : BlockPos) : String :=
  s!"BlockPos \x7b x: {p.x}, y: {p.y}, z: {p.z} \x7d"

end BlockPos

/-- The content of the columns between two corners. -/
structure Buffer where
  bottom : BlockPos
  top : BlockPos
  voxels : Cells Voxel
  biomes : Option (Cells BiomeTag)

namespace Buffer

/-- Blocks along one edge of a chunk. -/
def chunkEdge : Int := 16

/-- The number of coordinates from `lo` to `hi`. -/
def extent (lo hi : Int) : Checked Nat := do
  let between ← Coord.sub hi lo
  let count ← Coord.add between 1
  return count.toNat

/-- An empty buffer for the box between two corners. -/
def new? (bottom top : BlockPos) (trackBiomes : Bool) : Checked Buffer := do
  if top.x < bottom.x ∨ top.y < bottom.y ∨ top.z < bottom.z then
    throw (.violated s!"region corners out of order: {bottom.text} > {top.text}")
  let width ← extent bottom.x top.x
  let length ← extent bottom.z top.z
  let height ← extent bottom.y top.y
  return {
    bottom
    top
    voxels := .empty width length height
    biomes := if trackBiomes then some (.empty width length height) else none }

/-- The least and the greatest block coordinate of a chunk along one axis. -/
def chunkBounds (c : Int) : Checked (Int × Int) := do
  let least ← Coord.mul c chunkEdge
  let past ← Coord.add least chunkEdge
  let greatest ← Coord.sub past 1
  return (least, greatest)

/-- An empty buffer for a chunk and a range of heights. -/
def forChunk? (cx cz minY maxY : Int) (trackBiomes : Bool) : Checked Buffer := do
  let (minX, maxX) ← chunkBounds cx
  let (minZ, maxZ) ← chunkBounds cz
  new? ⟨minX, minY, minZ⟩ ⟨maxX, maxY, maxZ⟩ trackBiomes

/-- The number of columns along `x`. -/
def width (b : Buffer) : Nat :=
  b.voxels.width

/-- The number of columns along `z`. -/
def length (b : Buffer) : Nat :=
  b.voxels.length

/-- A height of the buffer. -/
def HasHeight (b : Buffer) (y : Int) : Prop :=
  b.bottom.y ≤ y ∧ y ≤ b.top.y

instance (b : Buffer) (y : Int) : Decidable (b.HasHeight y) :=
  inferInstanceAs (Decidable (_ ∧ _))

/-- The fault of a write at a height outside the buffer. -/
def heightFault (b : Buffer) (y : Int) : Fault :=
  .violated s!"y={y} outside [{b.bottom.y}, {b.top.y}]"

/-- Write one voxel. -/
def write (b : Buffer) (x : Nat) (y : Int) (z : Nat) (v : Voxel) : Checked Unit × Buffer :=
  if b.HasHeight y then
    let i := (y - b.bottom.y).toNat
    let outcome := if b.voxels.Inside x i z then .ok () else .error .outOfRange
    (outcome, { b with voxels := b.voxels.set x i z v })
  else (.error (b.heightFault y), b)

/-- Write the voxel that a pattern gives for the absolute position of a cell. -/
def writePattern (b : Buffer) (x : Nat) (y : Int) (z : Nat) (p : Pattern) :
    Checked Unit × Buffer :=
  match Coord.add b.bottom.x (Coord.wrap x), Coord.add b.bottom.z (Coord.wrap z) with
  | .ok absX, .ok absZ => b.write x y z (p absX y absZ)
  | _, _ => (.error .overflow, b)

/-- Write the biome of one cell; the outcome tells whether the buffer tracks biomes. -/
def writeBiome (b : Buffer) (x : Nat) (y : Int) (z : Nat) (tag : BiomeTag) :
    Checked Bool × Buffer :=
  match b with
  | ⟨bottom, top, voxels, none⟩ => (.ok false, ⟨bottom, top, voxels, none⟩)
  | ⟨bottom, top, voxels, some cells⟩ =>
    if bottom.y ≤ y ∧ y ≤ top.y then
      let i := (y - bottom.y).toNat
      let outcome := if cells.Inside x i z then .ok true else .error .outOfRange
      (outcome, ⟨bottom, top, voxels, some (cells.set x i z tag)⟩)
    else
      let b : Buffer := ⟨bottom, top, voxels, some cells⟩
      (.error (b.heightFault y), b)

/-- Write the biome of all heights of a column; the outcome tells whether the buffer tracks
biomes. -/
def writeBiomeColumn (b : Buffer) (x z : Nat) (tag : BiomeTag) : Checked Bool × Buffer :=
  match b with
  | ⟨bottom, top, voxels, none⟩ => (.ok false, ⟨bottom, top, voxels, none⟩)
  | ⟨bottom, top, voxels, some cells⟩ =>
    if x < cells.width ∧ z < cells.length then
      (.ok true, ⟨bottom, top, voxels, some (cells.setColumn x z tag)⟩)
    else (.error .outOfRange, ⟨bottom, top, voxels, some cells⟩)

/-- The voxel of a cell; outside the box there is none. -/
def voxel? (b : Buffer) (x : Nat) (y : Int) (z : Nat) : Option Voxel :=
  if b.HasHeight y then b.voxels.get? x (y - b.bottom.y).toNat z else none

/-- The biome of a cell; outside the box, and where biomes are not tracked, there is none. -/
def biome? (b : Buffer) (x : Nat) (y : Int) (z : Nat) : Option BiomeTag :=
  if b.HasHeight y then b.biomes.bind fun cells => cells.get? x (y - b.bottom.y).toNat z else none

/-- Whether the buffer keeps biomes. -/
def tracksBiomes (b : Buffer) : Bool :=
  b.biomes.isSome

/-- The number of heights that a voxel write has reached. -/
def layerCount (b : Buffer) : Nat :=
  b.voxels.layerCount

/-- No voxel write has reached any height. -/
def isEmpty (b : Buffer) : Bool :=
  b.layerCount == 0

/-- All voxels as `(x, y, z, voxel)`, by height, `z` and `x`. -/
def voxelList (b : Buffer) : List (Nat × Int × Nat × Voxel) :=
  b.voxels.toList.map fun (i, z, x, v) => (x, b.bottom.y + i, z, v)

end Buffer

/-- A computation that writes to a buffer. When it stops at a fault, the buffer keeps what was
written until then. -/
abbrev Fill := ExceptT Fault (StateM Buffer)

namespace Fill

/-- A buffer operation as a computation. -/
def ofWrite {α : Type} (op : Buffer → Checked α × Buffer) : Fill α :=
  ExceptT.mk op

/-- The outcome of a computation and the buffer after it. -/
def exec {α : Type} (m : Fill α) (b : Buffer) : Checked α × Buffer :=
  m.run b

/-- Stop or go on as a checked result says. -/
def lift {α : Type} (r : Checked α) : Fill α :=
  ofWrite fun b => (r, b)

/-- A value computed from the buffer. -/
def inspect {α : Type} (f : Buffer → α) : Fill α :=
  ofWrite fun b => (.ok (f b), b)

/-- Write one voxel. -/
def voxel (x : Nat) (y : Int) (z : Nat) (v : Voxel) : Fill Unit :=
  ofWrite fun b => b.write x y z v

/-- Write the voxel that a pattern gives. -/
def pattern (x : Nat) (y : Int) (z : Nat) (p : Pattern) : Fill Unit :=
  ofWrite fun b => b.writePattern x y z p

/-- Write the biome of a column. -/
def biomeColumn (x z : Nat) (tag : BiomeTag) : Fill Bool :=
  ofWrite fun b => b.writeBiomeColumn x z tag

end Fill

end PlotGrid
