import PlotGrid.Registry.Key

/-!
# Schematics

A schematic is a box of cells that show blocks. Those who load it do not see how a file stores it,
only what a reader presents: the edges of the box, the block of each cell, and the blocks that may
occur.

- `SchematicBlock`: a block of a schematic, and `SchematicBlock.key`, its block key.
- `SchematicView`: a schematic as its reader presents it.
- `Schematic`, `Schematic.view`: a box whose cells are numbers in a palette, and how it is
  presented.
-/

namespace PlotGrid

/-- A block of a schematic. The space is the namespace of its name and may be empty. -/
structure SchematicBlock where
  space : String
  name : String
  props : Properties

namespace SchematicBlock

/-- The block that a text `space:name[property=value,...]` names. -/
def ofText (text : String) : SchematicBlock :=
  let k := BlockKey.parse text
  match Text.cut? ':' k.base.toList with
  | some (space, name) => ⟨.ofList space, .ofList name, k.props⟩
  | none => ⟨"", k.base, k.props⟩

/-- The block key of a block, properties in the order of their names. -/
def key (b : SchematicBlock) : String :=
  (if b.space.isEmpty then "" else b.space ++ ":") ++ b.name ++ BlockKey.propsText b.props.toList

/-- Air of either kind. -/
def isAir (b : SchematicBlock) : Bool :=
  (b.space.isEmpty || b.space == "minecraft") && (b.name == "air" || b.name == "cave_air") &&
    b.props.isEmpty

/-- The mark of a cell that a fragment leaves open. -/
def isVoid (b : SchematicBlock) : Bool :=
  b.space == "minecraft" && b.name == "structure_void" && b.props.isEmpty

end SchematicBlock

/-- A schematic as its reader presents it. -/
structure SchematicView where
  width : Int
  height : Int
  length : Int
  /-- The block of a cell, if it has one. -/
  block? : Nat → Nat → Nat → Option SchematicBlock
  /-- The blocks that may occur, whether or not a cell shows them. -/
  palette : List SchematicBlock

/-- A box of cells. The cell `(x, y, z)` has the number `(y * length + z) * width + x`. -/
structure Schematic where
  width : Nat
  height : Nat
  length : Nat
  palette : Array SchematicBlock
  cells : Vector Nat (width * height * length)

namespace Schematic

/-- A box whose cells all show one palette entry. -/
def filled (width height length : Nat) (palette : Array SchematicBlock) (entry : Nat) :
    Schematic :=
  ⟨width, height, length, palette, .replicate (width * height * length) entry⟩

/-- The number of a cell. -/
def index (s : Schematic) (x y z : Nat) : Nat :=
  (y * s.length + z) * s.width + x

/-- What a reader presents. -/
def view (s : Schematic) : SchematicView where
  width := s.width
  height := s.height
  length := s.length
  block? x y z :=
    if x < s.width ∧ y < s.height ∧ z < s.length then
      s.cells[s.index x y z]?.bind fun i => s.palette[i]?
    else none
  palette := s.palette.toList

/-- Let one cell show another palette entry. A cell outside of the box changes nothing. -/
def set (s : Schematic) (x y z entry : Nat) : Schematic :=
  if x < s.width ∧ y < s.height ∧ z < s.length then
    { s with cells := s.cells.setIfInBounds (s.index x y z) entry }
  else s

end Schematic

end PlotGrid
