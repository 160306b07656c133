import PlotGrid.Fragment.Clip
import PlotGrid.Fragment.Kind
import PlotGrid.Notice
import PlotGrid.Registry.Basic
import PlotGrid.Text.Numeral
import Std.Data.TreeSet

/-!
# Loading fragments

A schematic becomes a clip cell by cell: air and open cells are air, a cell whose block the
registry knows holds that block, and others stay air and are reported.

- `FragmentError`: why a fragment cannot be loaded.
- `FragmentSource`: whatever gives the clip of a path, or none if there is no file.
- `Registry.voxelOfKey?`: the voxel of a block key, with its rotation tag.
- `SchematicView.pourCell`, `SchematicView.pour`: one cell, and all cells one after the other.
- `SchematicView.load`: the clip of a schematic that has been read.
- `FileTree.readSchematic`: the schematic in a file.
- `FragmentSource.files`: fragments from schematic files.
-/

namespace PlotGrid

/-- Why a fragment cannot be loaded. -/
inductive FragmentError
  /-- The file cannot be reached. -/
  | unreadable (path : String) (reason : String)
  /-- The file is there and is no schematic. -/
  | unsupported (path : String) (reason : String)
  deriving Repr, DecidableEq

namespace FragmentError

/-- The text of an error. -/
def message : FragmentError → String
  | .unreadable path reason => s!"failed to read fragment {Path.quoted path}: {reason}"
  | .unsupported path reason => s!"unsupported fragment format {Path.quoted path}: {reason}"

/-- The error of a file that its reader makes no schematic of. -/
def undecodable (path reason : String) : FragmentError :=
  .unsupported path s!"parse schem: {reason}"

/-- The error of a schematic with an edge below zero. -/
def negative (path : String) (width height length : Int) : FragmentError :=
  .unsupported path s!"negative shape [{width}, {height}, {length}]"

end FragmentError

/-- Gives the clip of a path, or none if there is no file. -/
abbrev FragmentSource := String → ExceptT FragmentError (Logged Fault) (Option Clip)

/-- The voxel of a block key. The property `rotation` is its rotation tag too, if it is the numeral
of a rotation index. -/
def Registry.voxelOfKey? (reg : Registry) (key : String) : Option Voxel :=
  (reg.blockOfKeyOrUnknown? key).map fun block =>
    let tag := (BlockKey.parse key).props["rotation"]?.bind fun r => Text.rotation? r.toList
    ⟨block, tag.map UInt8.ofNat⟩

/-- A cell that a fragment leaves as it is: air or open. -/
def SchematicBlock.isOpen (b : SchematicBlock) : Bool :=
  b.isAir || b.isVoid

namespace SchematicView

/-- All cells of the box, by `x`, then by height, then by `z`. -/
def places (s : SchematicView) : List (Nat × Nat × Nat) :=
  (List.range s.width.toNat).flatMap fun x =>
    (List.range s.height.toNat).flatMap fun y =>
      (List.range s.length.toNat).map fun z => (x, y, z)

/-- Pour one cell: an open one is passed over, a block is written to the clip, and the name of a
block that nothing is made of is noted without the default namespace. -/
def pourCell (reg : Registry) (s : SchematicView) (held : Clip × Std.TreeSet String) :
    Nat × Nat × Nat → Checked (Clip × Std.TreeSet String)
  | (x, y, z) =>
    match s.block? x y z with
    | none => .ok held
    | some b =>
      if b.isOpen then .ok held
      else
        match reg.voxelOfKey? b.key with
        | some v => (held.1.setVoxel x y z v).map fun clip => (clip, held.2)
        | none => .ok (held.1, held.2.insert (stripNamespace (BlockKey.parse b.key).base))

/-- Pour all cells into a box of air. -/
def pour (reg : Registry) (s : SchematicView) : Checked (Clip × Std.TreeSet String) := do
  let blank ← Clip.filled? s.width.toNat s.height.toNat s.length.toNat .air
  s.places.foldlM (s.pourCell reg) (blank, ∅)

/-- The warning about names that are left out. -/
def skippedText (path : String) (names : List String) : String :=
  let list := ", ".intercalate names
  s!"{path}: skipped {names.length} unmapped block type(s): {list}"

/-- The notice about a loaded fragment. -/
def loadedText (path : String) (clip : Clip) : String :=
  s!"loaded fragment {path} ({clip.sizeText}, {clip.solidCount} solid)"

/-- Report a loaded clip and the names that were left out. -/
def reportLoaded (path : String) (clip : Clip) (names : List String) : Logged Fault Unit := do
  if !names.isEmpty then Logged.report .warn (skippedText path names)
  Logged.report .debug (loadedText path clip)

/-- The clip of a schematic that has been read from a path. -/
def load (reg : Registry) (path : String) (s : SchematicView) :
    ExceptT FragmentError (Logged Fault) Clip := do
  if s.width < 0 ∨ s.height < 0 ∨ s.length < 0 then
    throw (.negative path s.width s.height s.length)
  let (clip, names) ← ExceptT.lift (Logged.ofExcept (s.pour reg))
  reportLoaded path clip names.toList
  return clip

/-- The names of the blocks that may occur and for which the registry has no block of their own,
each once and in order. -/
def unsupported (reg : Registry) (s : SchematicView) : List String :=
  let names := s.palette.filterMap fun b =>
    if b.isOpen || (reg.blockOfKey? b.key).isSome then none else some (BlockKey.parse b.key).base
  (Std.TreeSet.ofList names).toList

end SchematicView

namespace FileTree

/-- Read the schematic at a path. -/
def readSchematic (t : FileTree) (path : String) : Checked (Except FragmentError SchematicView) :=
  (t.reader path (t.content? path)).map fun r => r.mapError (.undecodable path)

/-- The names of blocks in a schematic file that the registry does not know. -/
def unsupportedBlocks (t : FileTree) (reg : Registry) (path : String) :
    Checked (Except FragmentError (List String)) :=
  (t.readSchematic path).map fun r => r.map fun s => s.unsupported reg

end FileTree

/-- Fragments from the schematic files of a tree. -/
def FragmentSource.files (t : FileTree) (reg : Registry) : FragmentSource := fun path => do
  match t.find path with
  | .ok .directory => return none
  | .error .missing => return none
  | .error e => throw (.unreadable path e.message)
  | .ok (.file _) =>
    let s ← ExceptT.mk (Logged.ofExcept (t.readSchematic path))
    return some (← s.load reg path)

end PlotGrid
