import PlotGrid.Doc.Value

/-!
# Plot world configuration

What the configuration of plot worlds says: settings for all of them, and one record for each plot
area. A field that is left out has the default given here.

- `SchematicSettings`, `Settings`: the settings.
- `AreaConfig`: one area; `AreaConfig.label` is its name in messages.
- `WorldsConfig.ofDoc?`: the configuration of a document.
-/

namespace PlotGrid

/-- How fragments are placed and where their files are. -/
structure SchematicSettings where
  /-- Start a plot template at the plot's surface and not at the building floor. -/
  pasteOnTop : Bool
  /-- Start road fragments at the road's surface and not at the building floor. -/
  pasteRoadOnTop : Bool
  /-- Start road fragments no higher than the wall. -/
  useWall : Bool
  /-- The directory of the fragment files. -/
  root : String
  deriving Repr, DecidableEq

namespace SchematicSettings

/-- All switches on, files in the usual directory. -/
def default : SchematicSettings :=
  ⟨true, true, true, "schematics/GEN_ROAD_SCHEMATIC"⟩

/-- The settings of a document. -/
def ofDoc? (surplus : Surplus) (d : Doc) : Option SchematicSettings := do
  let f ← d.record? surplus
    ["paste_on_top", "paste_road_on_top", "use_wall_in_road_schem_height", "root"]
  return {
    pasteOnTop := ← f.withDefault "paste_on_top" Doc.bool? default.pasteOnTop
    pasteRoadOnTop := ← f.withDefault "paste_road_on_top" Doc.bool? default.pasteRoadOnTop
    useWall := ← f.withDefault "use_wall_in_road_schem_height" Doc.bool? default.useWall
    root := ← f.withDefault "root" Doc.text? default.root }

end SchematicSettings

/-- The settings for all plot worlds. -/
structure Settings where
  /-- Report every resolved field of an area. -/
  debug : Bool
  schematics : SchematicSettings
  deriving Repr, DecidableEq

namespace Settings

/-- Quiet, with the usual placement. -/
def default : Settings :=
  ⟨false, .default⟩

/-- The settings of a document. -/
def ofDoc? (surplus : Surplus) (d : Doc) : Option Settings := do
  let f ← d.record? surplus ["debug", "schematics"]
  return {
    debug := ← f.withDefault "debug" Doc.bool? default.debug
    schematics :=
      ← f.withDefault "schematics" (SchematicSettings.ofDoc? surplus) default.schematics }

end Settings

/-- Two corners `(x, z)` of a region, in any order. -/
structure Corners where
  first : Int × Int
  second : Int × Int
  deriving Repr, DecidableEq

/-- The corners of a document. -/
def Corners.ofDoc? (surplus : Surplus) (d : Doc) : Option Corners := do
  let f ← d.record? surplus ["min", "max"]
  let first ← f.required "min" (Doc.pair? surplus Doc.coord?)
  let second ← f.required "max" (Doc.pair? surplus Doc.coord?)
  return ⟨first, second⟩

/-- The configuration of a plot area. -/
structure AreaConfig where
  world : String
  id : Option String
  region : Option Corners
  plotWidth : Int
  roadWidth : Int
  roadHeight : Int
  plotHeight : Int
  wallHeight : Int
  /-- Left out: the bottom of the world. -/
  minGenHeight : Option Int
  /-- Left out: the top of the world. -/
  maxGenHeight : Option Int
  /-- Left out: one above the generation floor. -/
  minBuildHeight : Option Int
  /-- Left out: the generation ceiling. -/
  maxBuildHeight : Option Int
  plotBedrock : Bool
  roadOffsetX : Int
  roadOffsetZ : Int
  mainBlock : String
  topBlock : String
  wallBlock : String
  wallFilling : String
  roadBlock : String
  biome : Option String
  deriving Repr, DecidableEq

namespace AreaConfig

/-- An area of a world with every other field left out. -/
def plain (world : String) : AreaConfig where
  world
  id := none
  region := none
  plotWidth := 42
  roadWidth := 7
  roadHeight := 62
  plotHeight := 62
  wallHeight := 62
  minGenHeight := none
  maxGenHeight := none
  minBuildHeight := none
  maxBuildHeight := none
  plotBedrock := true
  roadOffsetX := 0
  roadOffsetZ := 0
  mainBlock := "stone"
  topBlock := "grass_block"
  wallBlock := "stone_slab"
  wallFilling := "stone"
  roadBlock := "quartz_block"
  biome := none

/-- The name of an area: its world, and its own id if it has one. -/
def label (cfg : AreaConfig) : String :=
  match cfg.id with
  | some id => cfg.world ++ ";" ++ id
  | none => cfg.world

/-- The names of the fields in order. -/
def fieldNames : List String :=
  ["world", "id", "region", "plot_width", "road_width", "road_height", "plot_height",
   "wall_height", "min_gen_height", "max_gen_height", "min_build_height", "max_build_height",
   "plot_bedrock", "road_offset_x", "road_offset_z", "main_block", "top_block", "wall_block",
   "wall_filling", "road_block", "biome"]

/-- The area of a document. -/
def ofDoc? (surplus : Surplus) (d : Doc) : Option AreaConfig := do
  let f ← d.record? surplus fieldNames
  let base := plain (← f.required "world" Doc.text?)
  let number (name : String) (default : Int) := f.withDefault name Doc.coord? default
  let text (name : String) (default : String) := f.withDefault name Doc.text? default
  return {
    world := base.world
    id := ← f.optional "id" Doc.text?
    region := ← f.optional "region" (Corners.ofDoc? surplus)
    plotWidth := ← number "plot_width" base.plotWidth
    roadWidth := ← number "road_width" base.roadWidth
    roadHeight := ← number "road_height" base.roadHeight
    plotHeight := ← number "plot_height" base.plotHeight
    wallHeight := ← number "wall_height" base.wallHeight
    minGenHeight := ← f.optional "min_gen_height" Doc.coord?
    maxGenHeight := ← f.optional "max_gen_height" Doc.coord?
    minBuildHeight := ← f.optional "min_build_height" Doc.coord?
    maxBuildHeight := ← f.optional "max_build_height" Doc.coord?
    plotBedrock := ← f.withDefault "plot_bedrock" Doc.bool? base.plotBedrock
    roadOffsetX := ← number "road_offset_x" base.roadOffsetX
    roadOffsetZ := ← number "road_offset_z" base.roadOffsetZ
    mainBlock := ← text "main_block" base.mainBlock
    topBlock := ← text "top_block" base.topBlock
    wallBlock := ← text "wall_block" base.wallBlock
    wallFilling := ← text "wall_filling" base.wallFilling
    roadBlock := ← text "road_block" base.roadBlock
    biome := ← f.optional "biome" Doc.text? }

end AreaConfig

/-- The configuration of all plot worlds. -/
structure WorldsConfig where
  settings : Settings
  areas : List AreaConfig
  deriving Repr, DecidableEq

/-- The configuration of a document. -/
def WorldsConfig.ofDoc? (surplus : Surplus) (d : Doc) : Option WorldsConfig := do
  let f ← d.record? surplus ["settings", "area"]
  let settings ← f.withDefault "settings" (Settings.ofDoc? surplus) .default
  let areas ← f.withDefault "area" (Doc.list? (AreaConfig.ofDoc? surplus)) []
  return ⟨settings, areas⟩

end PlotGrid
