import PlotGrid.Voxel
import Std.Data.TreeMap

/-!
# State layout

The state of a block packs one value per property of its type into 16 bits. Properties stand in
the order of their names, the first at the lowest bits; a property with `n` values takes as many
bits as number them, and none if there is no choice.

- `StateField`: one property with its values and its place.
- `StateField.code`, `StateField.put`: read and write the number of a value.
- `Layout.ofSchema`: the fields of a schema.
- `BlockType`: a named type with its fields.
- `BlockType.value?`, `BlockType.withValue`, `BlockType.pack`: read, change and build a state.
-/

namespace PlotGrid

/-- The allowed values of each property; the first is the default. -/
abbrev Schema := Std.TreeMap String (List String)

/-- A choice of values by property name. -/
abbrev Properties := Std.TreeMap String String

/-- A property with its allowed values and its bits. -/
structure StateField where
  name : String
  values : List String
  bits : Nat
  offset : Nat
  deriving Repr, DecidableEq, Inhabited

namespace StateField

/-- The number of bits that tell `n` values apart. -/
def width (n : Nat) : Nat :=
  if n ≤ 1 then 0 else (n - 1).log2 + 1

/-- The number that a state holds in the field's bits. -/
def code (f : StateField) (state : UInt16) : Nat :=
  (state.toNat >>> f.offset) % (1 <<< f.bits)

/-- The state with another number in the field's bits: the difference is flipped there and
nowhere else. -/
def put (f : StateField) (state : UInt16) (n : Nat) : UInt16 :=
  .ofNat (state.toNat ^^^ ((f.code state ^^^ n) <<< f.offset))

/-- The number of a value, if it is listed. -/
def number? (f : StateField) (value : String) : Option Nat :=
  f.values.idxOf? value

/-- The value that a state holds. A field without bits holds its only value; a number past the
list is no value. -/
def value? (f : StateField) (state : UInt16) : Option String :=
  f.values[f.code state]?

end StateField

namespace Layout

/-- Place properties one after the other from a bit on. -/
def place (offset : Nat) : List (String × List String) → List StateField
  | [] => []
  | (name, values) :: rest =>
    ⟨name, values, StateField.width values.length, offset⟩ ::
      place (offset + StateField.width values.length) rest

/-- The fields of a schema, in the order of the property names. -/
def ofSchema (schema : Schema) : List StateField :=
  place 0 schema.toList

/-- The number of bits of all fields. -/
def bits (fields : List StateField) : Nat :=
  fields.foldr (fun f n => f.bits + n) 0

end Layout

/-- A block type. A type without a name fills a gap of the table. -/
structure BlockType where
  id : BlockId
  name : String
  fields : List StateField
  deriving Repr, DecidableEq, Inhabited

namespace BlockType

/-- The entry that fills a gap. -/
def placeholder (id : BlockId) : BlockType :=
  ⟨id, "", []⟩

/-- The field of a property. -/
def field? (t : BlockType) (prop : String) : Option StateField :=
  t.fields.find? fun f => f.name == prop

/-- The value of a property in a state. -/
def value? (t : BlockType) (state : UInt16) (prop : String) : Option String :=
  (t.field? prop).bind fun f => f.value? state

/-- Whether a property has a value. -/
def hasValue (t : BlockType) (state : UInt16) (prop value : String) : Bool :=
  t.value? state prop == some value

/-- The state with another value of one property. An unknown property or value changes nothing. -/
def withValue (t : BlockType) (state : UInt16) (prop value : String) : UInt16 :=
  match t.field? prop with
  | none => state
  | some f =>
    match f.number? value with
    | none => state
    | some n => f.put state n

/-- The number that a choice of values gives a field: the default unless a listed value is
chosen. -/
def choice (props : Properties) (f : StateField) : Nat :=
  (props[f.name]?.bind f.number?).getD 0

/-- The state of a choice of values, field by field. -/
def pack (t : BlockType) (props : Properties) : UInt16 :=
  t.fields.foldl (fun state f => f.put state (choice props f)) 0

/-- Every property with the value that a state gives it. -/
def values (t : BlockType) (state : UInt16) : List (String × Option String) :=
  t.fields.map fun f => (f.name, f.value? state)

end BlockType

end PlotGrid
