import PlotGrid.Registry.Layout
import PlotGrid.Text.Blank
import PlotGrid.Text.Cut

/-!
# Block keys

The text form of a block: a base name, and in brackets the values of its properties, as in
`minecraft:oak_stairs[facing=east,half=top]`.

- `BlockKey.parse`: split a text; it never fails, and what is no `name=value` is skipped.
- `BlockKey.text`: write a key, properties in the order of their names.
- `stripNamespace`: a name without the default namespace.
-/

namespace PlotGrid

/-- The namespace that a name may leave out, with its mark. -/
def defaultNamespace : List Char :=
  "minecraft:".toList

/-- A name without the default namespace. -/
def stripNamespace (name : String) : String :=
  if defaultNamespace.isPrefixOf name.toList then
    .ofList (name.toList.drop defaultNamespace.length)
  else name

/-- A base name and the chosen values of properties. -/
structure BlockKey where
  base : String
  props : Properties

namespace BlockKey

/-- Enter one `name=value` into a choice; blanks around either are dropped and a later value of
the same property replaces an earlier one. -/
def enter (props : Properties) (pair : List Char) : Properties :=
  match Text.cut? '=' pair with
  | none => props
  | some (name, value) => props.insert (.ofList (Text.trim name)) (.ofList (Text.trim value))

/-- The text without one closing bracket at its end. -/
def dropBracket (body : List Char) : List Char :=
  if body.getLast? = some ']' then body.dropLast else body

/-- The choice of values that a list in brackets gives. -/
def parseProps (body : List Char) : Properties :=
  (Text.pieces ',' body).foldl enter ∅

/-- Split a text into base name and properties. -/
def parse (key : String) : BlockKey :=
  match Text.cut? '[' key.toList with
  | none => ⟨key, ∅⟩
  | some (base, rest) => ⟨.ofList base, parseProps (dropBracket rest)⟩

/-- The list of properties in brackets; nothing for no property. -/
def propsText (props : List (String × String)) : String :=
  if props.isEmpty then ""
  else "[" ++ ",".intercalate (props.map fun p => p.1 ++ "=" ++ p.2) ++ "]"

/-- The text of a key. -/
def text (k : BlockKey) : String :=
  k.base ++ propsText k.props.toList

end BlockKey

end PlotGrid
