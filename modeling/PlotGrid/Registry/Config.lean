import PlotGrid.Doc.Value
import PlotGrid.Registry.Basic

/-!
# Registry documents

The definitions of a registry as a document: `blocks` with `name`, `id` and `state_schema`, then
`biomes` and `unknown_block`. Other fields do not matter.

- `RegistryConfig.ofDoc?`: the definitions of a document, or nothing if a field does not fit.
-/

namespace PlotGrid

/-- The allowed values of properties. -/
def Schema.ofDoc? (d : Doc) : Option Schema :=
  (d.table? (Doc.list? Doc.text?)).map fun entries => .ofList entries

/-- One definition. -/
def BlockDefinition.ofDoc? (surplus : Surplus) (d : Doc) : Option BlockDefinition := do
  let f ← d.record? surplus ["name", "id", "state_schema"]
  let name ← f.required "name" Doc.text?
  let id ← f.optional "id" Doc.word?
  let schema ← f.optional "state_schema" Schema.ofDoc?
  return ⟨name, id, schema.getD ∅⟩

/-- All definitions. -/
def RegistryConfig.ofDoc? (surplus : Surplus) (d : Doc) : Option RegistryConfig := do
  let f ← d.record? surplus ["blocks", "biomes", "unknown_block"]
  let blocks ← f.withDefault "blocks" (Doc.list? (BlockDefinition.ofDoc? surplus)) []
  let biomes ← f.withDefault "biomes" (Doc.list? Doc.text?) []
  let unknownBlock ← f.optional "unknown_block" Doc.text?
  return { blocks, biomes, unknownBlock }

end PlotGrid
