import PlotGrid.Bucket
import PlotGrid.Grid.Region
import PlotGrid.Overlay.Build

/-!
# Plot areas

A plot area is a region of a world with its geometry, its blocks and the overlay that it shows at
the moment. Publishing an overlay replaces the one before as a whole.

- `World`: what the host says about a world.
- `Area`, `Area.ofConfig`: an area, and the area of a configuration.
- `ConfigError`: why a configuration does not make an area.
- `Area.install`, `Area.clear`, `Area.setup`: publish an overlay.
- `Atlas`, `Atlas.inWorld`, `Atlas.forChunk?`: all areas, and the one that owns a chunk.
-/

namespace PlotGrid

/-- A world of the host; both heights are included. -/
structure World where
  name : String
  minHeight : Int
  maxHeight : Int
  deriving Repr, DecidableEq

/-- The blocks of an area. -/
structure AreaBlocks where
  main : Bucket
  top : Bucket
  wall : Bucket
  wallFilling : Bucket
  road : Bucket
  bedrock : Option Voxel
  deriving Repr, DecidableEq

/-- Why a configuration does not make an area, or cannot be had. -/
inductive ConfigError
  | unreadable (path : String) (cause : FileError)
  | malformed
  | invalidGeometry (area : String) (cause : GeometryError)
  | invalidBlock (area field reason : String)
  | unknownBiome (area biome : String)
  deriving Repr, DecidableEq

namespace ConfigError

/-- The text of an error. -/
def message : ConfigError → String
  | .unreadable path cause => s!"failed to read {Path.quoted path}: {cause.message}"
  | .malformed => "failed to parse config: TOML parse error"
  | .invalidGeometry area cause => s!"invalid geometry for area {area}: {cause.message}"
  | .invalidBlock area field reason => s!"area {area}: {field}: {reason}"
  | .unknownBiome area biome => s!"area {area}: unknown biome '{biome}'"

end ConfigError

/-- A plot area with the overlay that it shows. -/
structure Area where
  world : String
  id : Option String
  region : Option Region
  geometry : Geometry
  schematics : SchematicSettings
  blocks : AreaBlocks
  biome : Option BiomeTag
  registry : Registry
  overlay : Overlay

/-! ## Making an area -/

namespace AreaConfig

/-- The bucket of a field. -/
def bucket (cfg : AreaConfig) (reg : Registry) (field spec : String) :
    Except ConfigError Bucket :=
  match Bucket.parse reg spec with
  | .ok b => .ok b
  | .error e => .error (.invalidBlock cfg.label field e.message)

/-- The voxel of the floor, if the area has one. -/
def bedrock (cfg : AreaConfig) (reg : Registry) : Except ConfigError (Option Voxel) :=
  if cfg.plotBedrock then
    match reg.blockOfKey? "bedrock" with
    | some block => .ok (some ⟨block, none⟩)
    | none =>
      .error (.invalidBlock cfg.label "plot_bedrock" "registry has no 'bedrock' block")
  else .ok none

/-- The blocks of an area, resolved one after the other. -/
def blocks (cfg : AreaConfig) (reg : Registry) : Except ConfigError AreaBlocks := do
  let bedrock ← cfg.bedrock reg
  let main ← cfg.bucket reg "main_block" cfg.mainBlock
  let top ← cfg.bucket reg "top_block" cfg.topBlock
  let wall ← cfg.bucket reg "wall_block" cfg.wallBlock
  let wallFilling ← cfg.bucket reg "wall_filling" cfg.wallFilling
  let road ← cfg.bucket reg "road_block" cfg.roadBlock
  return { main, top, wall, wallFilling, road, bedrock }

/-- The biome of an area, if it has one. -/
def biomeTag (cfg : AreaConfig) (reg : Registry) : Except ConfigError (Option BiomeTag) :=
  match cfg.biome with
  | none => .ok none
  | some name =>
    match reg.biomeOf? name with
    | some tag => .ok (some tag)
    | none => .error (.unknownBiome cfg.label name)

/-- The resolved fields of an area as they are reported. -/
def dump (cfg : AreaConfig) (g : Geometry) (s : SchematicSettings) (pathUpper : Int) :
    List String :=
  [s!"- Dumping settings for plot area {cfg.label}",
   s!"-- plot_width = {g.plotWidth}",
   s!"-- road_width = {g.roadWidth}",
   s!"-- road_height = {g.roadHeight}",
   s!"-- plot_height = {g.plotHeight}",
   s!"-- wall_height = {g.wallHeight}",
   s!"-- min_gen_height = {g.minGen}",
   s!"-- max_gen_height = {g.maxGen}",
   s!"-- min_build_height = {g.minBuild}",
   s!"-- max_build_height = {g.maxBuild}",
   s!"-- plot_bedrock = {g.plotBedrock}",
   s!"-- road_offset_x = {g.roadOffsetX}",
   s!"-- road_offset_z = {g.roadOffsetZ}",
   s!"-- path_width_lower = {g.pathLower}",
   s!"-- path_width_upper = {pathUpper}",
   s!"-- main_block = {cfg.mainBlock}",
   s!"-- top_block = {cfg.topBlock}",
   s!"-- wall_block = {cfg.wallBlock}",
   s!"-- wall_filling = {cfg.wallFilling}",
   s!"-- road_block = {cfg.roadBlock}",
   "-- biome = " ++ cfg.biome.getD "<none>",
   s!"-- paste_on_top = {s.pasteOnTop}",
   s!"-- paste_road_on_top = {s.pasteRoadOnTop}",
   s!"-- use_wall_in_road_schem_height = {s.useWall}",
   s!"-- schematic_root = {s.root}"]

end AreaConfig

namespace Area

/-- The overlay without fragments. -/
def blankOverlay (g : Geometry) (s : SchematicSettings) : Checked Overlay := do
  let anchors ← Anchors.compute g s none none
  let size ← g.size
  Overlay.empty? size anchors

/-- What an area needs besides its overlay: geometry, blocks and biome. -/
def resolve (reg : Registry) (cfg : AreaConfig) (world : World) :
    Checked (Except ConfigError (Geometry × AreaBlocks × Option BiomeTag)) := do
  match ← cfg.geometry world.minHeight world.maxHeight with
  | .error e => return .error (.invalidGeometry cfg.label e)
  | .ok g =>
    return do
      let blocks ← cfg.blocks reg
      let biome ← cfg.biomeTag reg
      return (g, blocks, biome)

/-- The area of a configuration. With the debug setting its resolved fields are reported. -/
def ofConfig (reg : Registry) (settings : Settings) (cfg : AreaConfig) (world : World) :
    Logged Fault (Except ConfigError Area) := do
  match ← Logged.ofExcept (resolve reg cfg world) with
  | .error e => return .error e
  | .ok (geometry, blocks, biome) =>
    if settings.debug then
      let pathUpper ← Logged.ofExcept geometry.pathUpper
      (cfg.dump geometry settings.schematics pathUpper).forM (Logged.report .info)
    let overlay ← Logged.ofExcept (blankOverlay geometry settings.schematics)
    return .ok {
      world := cfg.world
      id := cfg.id
      region := cfg.region.map Region.ofCorners
      geometry
      schematics := settings.schematics
      blocks
      biome
      registry := reg
      overlay }

/-- The name of an area: its world, and its own id if it has one. -/
def label (a : Area) : String :=
  match a.id with
  | some id => a.world ++ ";" ++ id
  | none => a.world

/-! ## Publishing overlays -/

/-- Publish the overlay of a set of fragments. -/
def install (a : Area) (f : Fragments) : Logged Fault (Area × OverlaySummary) := do
  let overlay ← Overlay.build a.registry a.geometry a.schematics f
  let summary := overlay.summary
  if f.isEmpty then
    Logged.report .debug s!"{a.label}: no fragments, plain plot world"
  else
    Logged.report .info s!"{a.label}: overlay ready: {summary.text}"
  return ({ a with overlay }, summary)

/-- Publish the overlay without fragments. -/
def clear (a : Area) : Checked Area := do
  let overlay ← blankOverlay a.geometry a.schematics
  return { a with overlay }

/-- Load the area's fragments and publish their overlay. If one cannot be loaded, the overlay
without fragments is published. -/
def setup (a : Area) (tree : FileTree) (source : FragmentSource) :
    Logged Fault (Area × Except FragmentFailure OverlaySummary) := do
  let dir := tree.fragmentRoot a.schematics.root a.world a.id
  match ← (Fragments.load tree source dir).run with
  | .ok f =>
    let (a, summary) ← a.install f
    return (a, .ok summary)
  | .error e =>
    Logged.report .error s!"{a.label}: overlay setup failed: {e.message}"
    let a ← Logged.ofExcept a.clear
    return (a, .error e)

end Area

/-! ## All areas -/

/-- All plot areas in the order in which they were added. -/
abbrev Atlas := Array Area

namespace Atlas

/-- The areas of a world. -/
def inWorld (atlas : Atlas) (world : String) : List Area :=
  atlas.toList.filter fun a => a.world == world

/-- The area that owns a chunk of a world: the first that is unbounded or shares a column with it.
-/
def forChunk? (atlas : Atlas) (world : String) (cx cz : Int) : Option Area :=
  (atlas.inWorld world).find? fun a => a.region.all fun r => r.intersectsChunk cx cz

end Atlas

end PlotGrid
