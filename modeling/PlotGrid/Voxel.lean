/-!
# Blocks, voxels and biomes

- `Block`: a block type and its packed state.
- `Voxel`: a block with the rotation tag that signs, banners and heads carry as entity data.
- `BiomeTag`: an index into a registry's biomes.
- `Pattern`: a rule that gives a voxel for each absolute position.
-/

namespace PlotGrid

/-- The number of a block type in its registry. -/
abbrev BlockId := UInt16

/-- The number of a biome in its registry. -/
abbrev BiomeTag := UInt16

/-- A block type with the packed values of its properties. -/
structure Block where
  id : BlockId
  state : UInt16
  deriving Repr, DecidableEq, Inhabited

namespace Block

/-- The empty block. -/
def air : Block := ⟨0, 0⟩

/-- Air is told by its id alone, whatever the state. -/
def isAir (b : Block) : Bool :=
  b.id == 0

end Block

/-- The content of one cell: a block and, for content that a second pass places, a rotation tag. -/
structure Voxel where
  block : Block
  rot : Option UInt8 := none
  deriving Repr, DecidableEq, Inhabited

namespace Voxel

/-- The empty voxel. -/
def air : Voxel := ⟨.air, none⟩

/-- A voxel whose block is air. -/
def isAir (v : Voxel) : Bool :=
  v.block.isAir

/-- A voxel with a rotation tag, left to the second pass. -/
def isEntity (v : Voxel) : Bool :=
  v.rot.isSome

end Voxel

/-- A rule that gives a voxel for each absolute position. -/
abbrev Pattern := Int → Int → Int → Voxel

/-- The pattern of one voxel everywhere. -/
def Pattern.const (v : Voxel) : Pattern :=
  fun _ _ _ => v

end PlotGrid
