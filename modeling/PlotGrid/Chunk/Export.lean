import PlotGrid.Chunk.Buffer
import PlotGrid.Chunk.Section

/-!
# Section export

A chunk is handed over as a stack of sections of sixteen cells along each axis. A section exists
if the chunk has a voxel in it.

- `ChunkSections`: the sections from the lowest layer up.
- `Buffer.sections?`: the export of a buffer that is one chunk wide and long.
- `ChunkSections.voxel?`: the voxel at a position.
- `ChunkSections.filled`: the number of sections that exist.
-/

namespace PlotGrid

/-- A stack of sections; the cells of a section are numbered by `Section.index`. -/
structure ChunkSections where
  lowest : Int
  sections : Array (Option (Array (Option Voxel)))
  deriving DecidableEq

namespace ChunkSections

/-- Enter one voxel. -/
def enter (lowest : Int) (sections : Array (Option (Array (Option Voxel))))
    (cell : Nat × Int × Nat × Voxel) : Array (Option (Array (Option Voxel))) :=
  let (x, y, z, v) := cell
  sections.modify (Section.layer y - lowest).toNat fun held =>
    some ((held.getD (Array.replicate Section.volume none)).modify (Section.index x y z)
      fun _ => some v)

/-- The voxel at a position; `x` and `z` count modulo 16. -/
def voxel? (c : ChunkSections) (x y z : Int) : Option Voxel :=
  let i := Section.layer y - c.lowest
  if i < 0 then none
  else do
    let held ← (← c.sections[i.toNat]?)
    (← held[Section.index x y z]?)

/-- The number of sections that hold a voxel. -/
def filled (c : ChunkSections) : Nat :=
  c.sections.toList.countP Option.isSome

end ChunkSections

namespace Buffer

/-- The sections of a buffer that covers one chunk. -/
def sections? (b : Buffer) : Checked ChunkSections :=
  if b.width ≠ Section.edge ∨ b.length ≠ Section.edge then
    .error (.violated s!"section export needs a 16x16 buffer, got {b.width}x{b.length}")
  else
    let lowest := Section.layer b.bottom.y
    let count := (Section.layer b.top.y - lowest + 1).toNat
    .ok ⟨lowest, b.voxelList.foldl (ChunkSections.enter lowest) (Array.replicate count none)⟩

end Buffer

end PlotGrid
