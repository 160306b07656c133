import PlotGrid.Registry.Key
import Std.Data.HashMap

/-!
# Block registry

The table of block types and biomes that a world knows. It is built once from a list of
definitions and then only read.

- `RegistryConfig`: the definitions.
- `Registry.build`: the table, or the definition that does not fit.
- `Registry.get?`, `Registry.idOf?`, `Registry.biomeOf?`, `Registry.biomeName?`: look-up.
- `Registry.blockOfKey?`, `Registry.blockOfKeyOrUnknown?`: the block that a key names.
-/

namespace PlotGrid

/-- The definition of a block type. -/
structure BlockDefinition where
  name : String
  id : Option BlockId
  schema : Schema

/-- The definitions of a registry, in order. -/
structure RegistryConfig where
  blocks : List BlockDefinition
  biomes : List String
  unknownBlock : Option String

/-- A definition that does not fit. -/
inductive RegistryError
  /-- Air got a number other than zero. -/
  | misplacedAir (id : BlockId)
  /-- The properties of a block need more bits than a state has. -/
  | wideSchema (name : String) (bits : Nat)
  deriving Repr, DecidableEq

namespace RegistryError

/-- The text of an error. -/
def message : RegistryError → String
  | .misplacedAir id => s!"air must use id 0, got {id}"
  | .wideSchema name bits => s!"block '{name}' state schema needs {bits} bits (max 16)"

end RegistryError

/-- Block types by number, biomes by number, and the way back from their names. -/
structure Registry where
  types : Array BlockType
  idByName : Std.HashMap String BlockId
  biomes : Array String
  tagByBiome : Std.HashMap String BiomeTag
  unknown : Option BlockId

namespace Registry

/-- The number of bits of a state. -/
def stateBits : Nat := 16

/-- The type of a definition, or why it does not fit. A definition without a number takes the
length of the table so far. -/
def typeOf (taken : Nat) (d : BlockDefinition) : Except RegistryError BlockType :=
  let id := d.id.getD (.ofNat taken)
  let fields := Layout.ofSchema d.schema
  if d.name = "air" ∧ id ≠ 0 then .error (.misplacedAir id)
  else if Layout.bits fields > stateBits then .error (.wideSchema d.name (Layout.bits fields))
  else .ok ⟨id, d.name, fields⟩

/-- Enter a type at its number. A table that is too short is filled up with entries that name the
number entered. -/
def enter (table : Array BlockType) (t : BlockType) : Array BlockType :=
  let n := t.id.toNat
  (table ++ Array.replicate (n + 1 - table.size) (BlockType.placeholder t.id)).setIfInBounds n t

/-- The table of a list of definitions. -/
def tableOf (defs : List BlockDefinition) : Except RegistryError (Array BlockType) :=
  defs.foldlM (fun table d => (typeOf table.size d).map (enter table)) #[]

/-- The number of each name. Of two entries with the same name the later one counts. -/
def namesOf (table : Array BlockType) : Std.HashMap String BlockId :=
  table.foldl (fun names t => if t.name.isEmpty then names else names.insert t.name t.id) ∅

/-- The number of each biome. Of two equal names the later one counts. -/
def tagsOf (biomes : List String) : Std.HashMap String BiomeTag :=
  biomes.zipIdx.foldl (fun tags b => tags.insert b.1 (.ofNat b.2)) ∅

/-- Build a registry. -/
def build (cfg : RegistryConfig) : Except RegistryError Registry := do
  let types ← tableOf cfg.blocks
  let idByName := namesOf types
  return {
    types
    idByName
    biomes := cfg.biomes.toArray
    tagByBiome := tagsOf cfg.biomes
    unknown := cfg.unknownBlock.bind fun name => idByName[name]? }

/-- The type of a number. -/
def get? (reg : Registry) (id : BlockId) : Option BlockType :=
  reg.types[id.toNat]?

/-- The number of a name. -/
def idOf? (reg : Registry) (name : String) : Option BlockId :=
  reg.idByName[name]?

/-- The number of a biome; the name may have the default namespace in front. -/
def biomeOf? (reg : Registry) (name : String) : Option BiomeTag :=
  reg.tagByBiome[stripNamespace name]?

/-- The name of a biome. -/
def biomeName? (reg : Registry) (tag : BiomeTag) : Option String :=
  reg.biomes[tag.toNat]?

/-- The block of a name and a choice of values; without a choice the state is zero. -/
def blockOf? (reg : Registry) (name : String) (props : Option Properties) : Option Block :=
  (reg.idOf? name).map fun id =>
    match props, reg.get? id with
    | some p, some t => ⟨id, t.pack p⟩
    | _, _ => ⟨id, 0⟩

/-- The block that a key names. -/
def blockOfKey? (reg : Registry) (key : String) : Option Block :=
  let k := BlockKey.parse key
  reg.blockOf? (stripNamespace k.base) (if k.props.isEmpty then none else some k.props)

/-- The block that a key names, or else the block that stands for the unknown. -/
def blockOfKeyOrUnknown? (reg : Registry) (key : String) : Option Block :=
  match reg.blockOfKey? key with
  | some b => some b
  | none => reg.unknown.map fun id => ⟨id, 0⟩

end Registry

end PlotGrid
