import PlotGrid.Coord

/-!
# Section index

A section is a cube of sixteen cells along each axis. Its cells are numbered with `x` in the low
four bits, then `z`, then `y`. Coordinates count modulo 16; sections above each other are told
apart by their layer, the height divided by 16. Numbers and places are not computed when they are
asked for, but looked up in tables that are filled once.

- `Section.Tables`, `Section.tables`: the places of all numbers and the numbers of all places.
- `Section.index`: the number of a cell.
- `Section.xOf`, `Section.zOf`, `Section.yOf`: the way back; the height needs the layer too.
- `Section.layer`: the layer of a height.
-/

namespace PlotGrid.Section

/-- Cells along one edge. -/
def edge : Nat := 16

/-- Cells of a section. -/
def volume : Nat := 4096

/-! ## Tables -/

/-- The places of all numbers, one axis after the other, and the numbers of all places. -/
structure Tables where
  xs : Vector UInt8 volume
  ys : Vector UInt8 volume
  zs : Vector UInt8 volume
  /-- The numbers by `y`, then `x`, then `z`. -/
  numbers : Vector (Vector (Vector UInt16 edge) edge) edge

namespace Tables

/-- Tables in which nothing is entered. -/
def blank : Tables :=
  ⟨.replicate volume 0, .replicate volume 0, .replicate volume 0,
    .replicate edge (.replicate edge (.replicate edge 0))⟩

/-- Enter the place of a number: `y` is taken off, then `z`, and `x` is left. -/
def enterPlace (t : Tables) (j : Fin volume) : Tables :=
  let y := j.val >>> 8
  let rest := j.val - y <<< 8
  let z := rest >>> 4
  let x := rest - z <<< 4
  { t with xs := t.xs.set j (.ofNat x), ys := t.ys.set j (.ofNat y), zs := t.zs.set j (.ofNat z) }

/-- Enter the number of a place. -/
def enterNumber (t : Tables) (y x z : Fin edge) : Tables :=
  let number := y.val <<< 8 ||| z.val <<< 4 ||| x.val
  let row := t.numbers[y][x].set z (.ofNat number)
  { t with numbers := t.numbers.set y (t.numbers[y].set x row) }

/-- Enter the numbers of the places with some `y` and `x`. -/
def enterRow (t : Tables) (y x : Fin edge) : Tables :=
  (List.finRange edge).foldl (fun t z => t.enterNumber y x z) t

/-- Enter the numbers of the places with some `y`. -/
def enterFloor (t : Tables) (y : Fin edge) : Tables :=
  (List.finRange edge).foldl (fun t x => t.enterRow y x) t

/-- Enter all places by their numbers, then all numbers by their places. -/
def build : Tables :=
  (List.finRange edge).foldl enterFloor ((List.finRange volume).foldl enterPlace blank)

end Tables

/-- The tables of a section. -/
@[irreducible] def tables : Tables :=
  .build

/-! ## Look-up -/

theorem and_lt_edge (w : BitVec 32) : (w &&& 15#32).toNat < edge := by
  rw [BitVec.toNat_and]
  exact Nat.lt_of_le_of_lt Nat.and_le_right (by decide)

/-- The low four bits of a coordinate. -/
def lowBits (n : Int) : Fin edge :=
  ⟨(BitVec.ofInt 32 n &&& 15#32).toNat, and_lt_edge _⟩

/-- The number of a cell. -/
def index (x y z : Int) : Nat :=
  tables.numbers[lowBits y][lowBits x][lowBits z].toNat

/-- A number within a section. -/
def reduced (j : Nat) : Fin volume :=
  ⟨j % volume, Nat.mod_lt j (by decide)⟩

/-- The `x` of a cell within its section. -/
def xOf (j : Nat) : Int :=
  tables.xs[reduced j].toNat

/-- The `z` of a cell within its section. -/
def zOf (j : Nat) : Int :=
  tables.zs[reduced j].toNat

/-- The layer of a height. -/
def layer (y : Int) : Int :=
  y / 16

/-- The least height of a layer, reduced to a coordinate. -/
def base (layer : Int) : Int :=
  Coord.wrap (layer * 16)

/-- The height of a cell above the base of its layer. -/
def rise (j : Nat) : Int :=
  tables.ys[reduced j].toNat

/-- The height of a cell in a layer. -/
def yOf (layer : Int) (j : Nat) : Int :=
  base layer + rise j

end PlotGrid.Section
