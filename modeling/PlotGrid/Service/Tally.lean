import PlotGrid.Chunk.Export
import PlotGrid.Service.Pool
import Std.Data.HashMap

/-!
# Tallies

What a batch of chunk requests brought. Results are counted one by one as they come in; only when
all of them are counted are the blocks put in order.

- `chunksBetween`, `jobsBetween`: the chunks of a rectangle, and the jobs for them.
- `Counts`, `Counts.add`: the counts of a batch so far, and one more result.
- `Histogram.ofCounts`: how often each block occurs, the most frequent first.
- `Tally`, `Tally.ofResults`: the counts of a batch.
-/

namespace PlotGrid

/-- The chunks of the rectangle between two corners, bounds included. -/
def chunksBetween (a b : Int × Int) : List (Int × Int) :=
  (Coord.span (min a.1 b.1) (max a.1 b.1)).flatMap fun cx =>
    (Coord.span (min a.2 b.2) (max a.2 b.2)).map fun cz => (cx, cz)

/-- The jobs for the chunks of a rectangle, numbered in their order. -/
def jobsBetween (a b : Int × Int) (populate : Bool) : List Job :=
  (chunksBetween a b).zipIdx.map fun (c, id) => { cx := c.1, cz := c.2, id, populate }

/-! ## Histograms -/

/-- Blocks with the number of times that each occurs. -/
abbrev Histogram := List (BlockId × Nat)

namespace Histogram

/-- Count one more occurrence. -/
def count (counts : Std.HashMap BlockId Nat) (id : BlockId) : Std.HashMap BlockId Nat :=
  counts.alter id fun held => some (held.getD 0 + 1)

/-- The order of entries: by decreasing count, then by increasing number of the block. -/
def precedes (a b : BlockId × Nat) : Bool :=
  b.2 < a.2 || (a.2 == b.2 && a.1 ≤ b.1)

/-- The histogram of counted occurrences. -/
def ofCounts (counts : Std.HashMap BlockId Nat) : Histogram :=
  counts.toList.mergeSort precedes

end Histogram

/-! ## Tallies -/

/-- The counts of a batch of chunk requests. -/
structure Tally where
  generated : Nat
  unmanaged : Nat
  skipped : Nat
  /-- Chunks whose second pass wrote something. -/
  populated : Nat
  voxels : Nat
  /-- Voxels of the second pass. -/
  entityVoxels : Nat
  layers : Nat
  sections : Nat
  blocks : Histogram
  deriving Repr, DecidableEq

/-- The number of sections that hold a voxel. -/
def Buffer.sectionCount (b : Buffer) : Nat :=
  match b.sections? with
  | .ok s => s.filled
  | .error _ => 0

/-- The counts of the results that have come in so far. -/
structure Counts where
  generated : Nat := 0
  unmanaged : Nat := 0
  skipped : Nat := 0
  populated : Nat := 0
  voxels : Nat := 0
  entityVoxels : Nat := 0
  layers : Nat := 0
  sections : Nat := 0
  blocks : Std.HashMap BlockId Nat := ∅

namespace Counts

/-- Count a voxel of the first pass. -/
def addVoxel (c : Counts) (v : Voxel) : Counts :=
  { c with voxels := c.voxels + 1, blocks := Histogram.count c.blocks v.block.id }

/-- Count what the first pass left in a buffer. -/
def addBuffer (c : Counts) (b : Buffer) : Counts :=
  b.voxelList.foldl (fun c cell => c.addVoxel cell.2.2.2)
    { c with layers := c.layers + b.layerCount, sections := c.sections + b.sectionCount }

/-- Count the outcome of the first pass. -/
def addOutcome (c : Counts) : ChunkOutcome → Counts
  | .unmanaged => { c with unmanaged := c.unmanaged + 1 }
  | .skipped _ => { c with skipped := c.skipped + 1 }
  | .generated b => addBuffer { c with generated := c.generated + 1 } b

/-- Count what the second pass left in a buffer. -/
def addPopulated (c : Counts) (b : Buffer) : Counts :=
  { c with populated := c.populated + 1, entityVoxels := c.entityVoxels + b.voxelList.length }

/-- Count a result. -/
def add (c : Counts) (r : JobResult) : Counts :=
  match r.populated with
  | some b => (c.addOutcome r.outcome).addPopulated b
  | none => c.addOutcome r.outcome

/-- The counts with the blocks in order. -/
def tally (c : Counts) : Tally where
  generated := c.generated
  unmanaged := c.unmanaged
  skipped := c.skipped
  populated := c.populated
  voxels := c.voxels
  entityVoxels := c.entityVoxels
  layers := c.layers
  sections := c.sections
  blocks := .ofCounts c.blocks

end Counts

/-- The counts of the results of a batch, in the order in which they come in. -/
def Tally.ofResults (results : List JobResult) : Tally :=
  (results.foldl Counts.add {}).tally

end PlotGrid
