/-!
# Compass directions

The sixteen directions of the compass rose. A direction is its *rotation index*: 0 is south and the
index grows clockwise seen from above, so 4 is west, 8 north and 12 east.

- `Direction`, `Direction.names`, `Direction.name`, `Direction.ofName?`
- `Direction.south`, `Direction.west`, `Direction.north`, `Direction.east`
- `Grade`: the three kinds of direction, as bits of a selection.
-/

namespace PlotGrid

/-- A direction of the compass rose, told by its rotation index. -/
structure Direction where
  index : Fin 16
  deriving Repr, DecidableEq, Inhabited

/-- A selection of kinds of direction: bit 0 for the four main ones, bit 1 for the four between
them, bit 2 for the other eight. -/
abbrev Grade := UInt8

namespace Grade

/-- South, west, north and east. -/
def cardinal : Grade := 1

/-- The directions half way between the main ones. -/
def ordinal : Grade := 2

/-- The eight directions next to the main ones. -/
def secondary : Grade := 4

/-- Every direction. -/
def every : Grade := 7

end Grade

namespace Direction

/-- The names by rotation index. -/
def names : List String :=
  ["south", "south_southwest", "southwest", "west_southwest",
   "west", "west_northwest", "northwest", "north_northwest",
   "north", "north_northeast", "northeast", "east_northeast",
   "east", "east_southeast", "southeast", "south_southeast"]

/-- All directions by rotation index. -/
def all : List Direction :=
  (List.finRange 16).map Direction.mk

/-- The direction with a rotation index, if the index is below 16. -/
def ofIndex? (r : Nat) : Option Direction :=
  if h : r < 16 then some ⟨⟨r, h⟩⟩ else none

def south : Direction := ⟨0⟩

def west : Direction := ⟨4⟩

def north : Direction := ⟨8⟩

def east : Direction := ⟨12⟩

/-- The kind of a direction. -/
def grade (d : Direction) : Grade :=
  if d.index.val % 4 = 0 then .cardinal
  else if d.index.val % 4 = 2 then .ordinal
  else .secondary

/-- The name of a direction. -/
def name (d : Direction) : String :=
  names.getD d.index.val ""

/-- The direction of a name. -/
def ofName? (text : String) : Option Direction :=
  all.find? fun d => d.name == text

/-- A quarter turn counterclockwise seen from above: north to west, west to south, south to east,
east to north. -/
def quarterTurn (d : Direction) : Direction :=
  ⟨d.index + 12⟩

theorem ofIndex?_index (d : Direction) : ofIndex? d.index.val = some d := by
  simp [ofIndex?]

theorem ofName?_name (d : Direction) : ofName? d.name = some d := by
  obtain ⟨i⟩ := d
  revert i
  decide

end Direction

end PlotGrid
