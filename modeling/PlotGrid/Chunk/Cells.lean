/-!
# Cells of a box

The cells of a box, kept by height, then `z`, then `x`. A layer appears when a cell of its height
is written, a row when a cell of its layer and `z` is; so the empty space above a surface costs
nothing.

- `Cells.empty`: no cell is written.
- `Cells.get?`: the value of a cell.
- `Cells.set`: write a cell. Outside the box nothing is written, but the layer (and, if `z` is
  inside, the row) still appears.
- `Cells.setColumn`: write all heights of one column.
- `Cells.layerCount`: the number of layers that have appeared.
- `Cells.toList`: all written cells by height, `z` and `x`.
-/

namespace PlotGrid

/-- The cells of one height and `z`, by `x`. -/
abbrev CellRow (α : Type) (width : Nat) := Vector (Option α) width

/-- The rows of one height, by `z`. -/
abbrev CellLayer (α : Type) (width length : Nat) := Vector (Option (CellRow α width)) length

/-- Values for the cells of a box that is `width` along `x` and `length` along `z`. -/
structure Cells (α : Type) where
  width : Nat
  length : Nat
  layers : Array (Option (CellLayer α width length))

namespace Cells

variable {α : Type}

/-- A box of `height` layers without a written cell. -/
def empty (width length height : Nat) : Cells α :=
  ⟨width, length, Array.replicate height none⟩

/-- The number of heights of the box. -/
def height (c : Cells α) : Nat :=
  c.layers.size

/-- The value of the cell `(x, y, z)`, `y` counted from the bottom of the box. -/
def get? (c : Cells α) (x y z : Nat) : Option α := do
  let layer ← (← c.layers[y]?)
  let row ← (← layer[z]?)
  (← row[x]?)

/-- Change one entry of a vector. Outside of it nothing changes. -/
def change {β : Type} {n : Nat} (entries : Vector β n) (i : Nat) (f : β → β) : Vector β n :=
  ⟨entries.toArray.modify i f, by simp⟩

/-- Write into a row, which appears if need be. -/
def setRow {width : Nat} (x : Nat) (v : α) (row : Option (CellRow α width)) :
    Option (CellRow α width) :=
  some (change (row.getD (.replicate width none)) x fun _ => some v)

/-- Write into a layer, which appears if need be. -/
def setLayer {width length : Nat} (x z : Nat) (v : α) (layer : Option (CellLayer α width length)) :
    Option (CellLayer α width length) :=
  some (change (layer.getD (.replicate length none)) z (setRow x v))

/-- Write a cell. -/
def set (c : Cells α) (x y z : Nat) (v : α) : Cells α :=
  { c with layers := c.layers.modify y (setLayer x z v) }

/-- Write the cells of all heights at `(x, z)`. -/
def setColumn (c : Cells α) (x z : Nat) (v : α) : Cells α :=
  { c with layers := c.layers.map (setLayer x z v) }

/-- A cell of the box. -/
def Inside (c : Cells α) (x y z : Nat) : Prop :=
  x < c.width ∧ y < c.height ∧ z < c.length

instance (c : Cells α) (x y z : Nat) : Decidable (c.Inside x y z) :=
  inferInstanceAs (Decidable (_ ∧ _ ∧ _))

/-- The number of layers that have appeared. -/
def layerCount (c : Cells α) : Nat :=
  c.layers.toList.countP Option.isSome

/-- The written cells of a row with their `x`. -/
def rowCells {width : Nat} (row : CellRow α width) : List (Nat × α) :=
  row.toList.zipIdx.filterMap fun cell => cell.1.map fun v => (cell.2, v)

/-- The written cells of a layer with their `z` and `x`. -/
def layerCells {width length : Nat} (layer : CellLayer α width length) : List (Nat × Nat × α) :=
  layer.toList.zipIdx.flatMap fun row =>
    (row.1.map rowCells).getD [] |>.map fun cell => (row.2, cell.1, cell.2)

/-- All written cells as `(y, z, x, value)`, by height, `z` and `x`. -/
def toList (c : Cells α) : List (Nat × Nat × Nat × α) :=
  c.layers.toList.zipIdx.flatMap fun layer =>
    (layer.1.map layerCells).getD [] |>.map fun cell => (layer.2, cell)

end Cells

end PlotGrid
