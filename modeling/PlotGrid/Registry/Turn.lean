import PlotGrid.Compass.Direction
import PlotGrid.Registry.Basic
import PlotGrid.Text.Numeral

/-!
# Quarter turn of a voxel

A quarter turn about the vertical axis takes `(x, z)` to `(z, -x)`. It changes what a voxel says
about orientation: its rotation tag, and in its state the properties `facing`, `axis`, `rotation`
and the four links to the neighbours. Everything else stays.

- `Voxel.turnTag`: the tag.
- `Registry.turnBlock`: the state.
- `Registry.turn`: both.
-/

namespace PlotGrid

/-- The rotation index after a quarter turn. An index outside the compass rose stays. -/
def turnIndex? (r : Nat) : Option Nat :=
  (Direction.ofIndex? r).map fun d => d.quarterTurn.index.val

/-- Turn the rotation tag. -/
def Voxel.turnTag (v : Voxel) : Voxel :=
  { v with rot := v.rot.map fun r => ((turnIndex? r.toNat).map UInt8.ofNat).getD r }

namespace BlockType

/-- Write the turned value of a property, read from `src`, into a state. -/
def turnValue (t : BlockType) (src : UInt16) (prop : String) (turned : String → Option String)
    (state : UInt16) : UInt16 :=
  match (t.value? src prop).bind turned with
  | some value => t.withValue state prop value
  | none => state

/-- The name of a direction after a quarter turn. -/
def turnedFacing (value : String) : Option String :=
  (Direction.ofName? value).map fun d => d.quarterTurn.name

/-- The two horizontal axes change places. -/
def turnedAxis (value : String) : Option String :=
  some (if value = "x" then "z" else if value = "z" then "x" else value)

/-- The numeral of a rotation index after a quarter turn. -/
def turnedRotation (value : String) : Option String :=
  ((Text.rotation? value.toList).bind turnIndex?).map toString

/-- The directions of the links to the neighbours, in the order in which they are written. -/
def links : List Direction :=
  [.north, .east, .south, .west]

/-- A type that has all four links. -/
def isLinked (t : BlockType) : Bool :=
  links.all fun d => (t.field? d.name).isSome

/-- Write the value of one link, read from `src`, to the link on the turned side. -/
def turnLink (t : BlockType) (src : UInt16) (state : UInt16) (d : Direction) : UInt16 :=
  match t.value? src d.name with
  | some value => t.withValue state d.quarterTurn.name value
  | none => state

/-- Turn a state. Every value is read from the state as it was. -/
def turn (t : BlockType) (src : UInt16) : UInt16 :=
  let faced := t.turnValue src "facing" turnedFacing src
  let aligned := t.turnValue src "axis" turnedAxis faced
  let rotated := t.turnValue src "rotation" turnedRotation aligned
  if t.isLinked then links.foldl (t.turnLink src) rotated else rotated

end BlockType

namespace Registry

/-- Turn the state of a block; a block of no type stays. -/
def turnBlock (reg : Registry) (b : Block) : Block :=
  match reg.get? b.id with
  | some t => ⟨b.id, t.turn b.state⟩
  | none => b

/-- Turn a voxel: tag and state. -/
def turn (reg : Registry) (v : Voxel) : Voxel :=
  let tagged := v.turnTag
  ⟨reg.turnBlock tagged.block, tagged.rot⟩

end Registry

end PlotGrid
