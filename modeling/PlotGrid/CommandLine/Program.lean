import PlotGrid.CommandLine.Arguments
import PlotGrid.CommandLine.Assets
import PlotGrid.Service.Tally

/-!
# Program

What a command line does, as a function of the files, the environment and the words. Nothing is read
or printed here.

- `Loaded`, `load`: registry, areas and their overlays.
- `Printed`, `Printout`: lines that are printed one by one, until a fault if any.
- `inspect`, `tallyLines`, `columnLines`: what the commands print.
- `Outcome`, `run`: exit code and output of a command line.
-/

namespace PlotGrid.CommandLine

/-! ## Texts of fixed width -/

/-- A text with blanks in front up to a width. -/
def alignRight (width : Nat) (text : String) : String :=
  .ofList (text.toList.leftpad width ' ')

/-- A text with blanks behind it up to a width. -/
def alignLeft (width : Nat) (text : String) : String :=
  .ofList (text.toList.rightpad width ' ')

/-! ## Loading -/

/-- Why a command does not finish. -/
inductive Halt
  /-- Something that the user asked for cannot be had. -/
  | failed (message : String)
  /-- A computation stopped at a fault. -/
  | stopped (cause : Fault)
  /-- A computation at a worker stopped at a fault. -/
  | lost (cause : Fault)
  deriving Repr, DecidableEq

namespace Halt

/-- The exit code. A run that loses a worker is killed and has none. -/
def code : Halt → Option Nat
  | .failed _ => some 1
  | .stopped _ => some 101
  | .lost _ => none

/-- The text for the user. -/
def message : Halt → String
  | .failed message => message
  | .stopped cause | .lost cause => cause.text

end Halt

/-- A computation that prints lines, the earliest first, and may stop at a fault. -/
abbrev Printed := ExceptT Fault (StateM (Array String))

/-- The lines that a computation printed, and why it stopped before its end. -/
structure Printout where
  lines : List String
  halt : Option Halt
  deriving Repr, DecidableEq

namespace Printed

/-- Print one line. -/
def line (text : String) : Printed Unit :=
  modify fun lines => lines.push text

/-- What a computation prints. -/
def printout (m : Printed Unit) : Printout :=
  match m.run #[] with
  | (.ok _, lines) => ⟨lines.toList, none⟩
  | (.error cause, lines) => ⟨lines.toList, some (.stopped cause)⟩

end Printed

/-- A computation that stops as `wrap` says. -/
def guarded {α : Type} (wrap : Fault → Halt) (m : Logged Fault α) : Logged Halt α :=
  ExceptT.adapt wrap m

/-- A result, or a failure with the text of its error. -/
def orFail {ε α : Type} (message : ε → String) (r : Except ε α) : Logged Halt α :=
  Logged.ofExcept (r.mapError fun e => .failed (message e))

/-- What a run works with. -/
structure Loaded where
  tree : FileTree
  registry : Registry
  atlas : Atlas
  /-- The directory of the fragment files. -/
  fragmentRoot : String

/-- Notices of this severity go to the log file. -/
def isLogged (n : Notice) : Bool :=
  n.severity != .debug

/-- The files after everything reported so far went to the log file. -/
def flushLog {ε : Type} (t : FileTree) (logFile : Option String) : Logged ε FileTree := do
  let notices ← get
  let lines := (notices.toList.filter isLogged).map fun n => n.line ++ "\n"
  return (logFile.bind fun path => t.writeText path (String.join lines)).getD t

/-- The settings with the directory of fragments below the assets. -/
def rebase (root : String) (s : Settings) : Settings :=
  { s with schematics := { s.schematics with root := Path.join root s.schematics.root } }

/-- Make one area and set up its overlay. An overlay that cannot be had is only reported. -/
def loadArea (t : FileTree) (reg : Registry) (settings : Settings) (world : World) (atlas : Atlas)
    (cfg : AreaConfig) : Logged Halt Atlas := do
  let made ← guarded .stopped (Area.ofConfig reg settings cfg world)
  let area ← orFail ConfigError.message made
  let (area, result) ← guarded .stopped (area.setup t (.files t reg))
  match result with
  | .ok _ => pure ()
  | .error e =>
    Logged.report .warn s!"{area.label}: continuing without overlay ({e.message})"
  return atlas.push area

/-- Read the settings and set up the areas of the world. -/
def load (t : FileTree) (environment : Option String) (i : Invocation) : Logged Halt Loaded := do
  let world := i.world
  if world.minHeight > world.maxHeight then
    throw (.failed s!"min height {world.minHeight} above max height {world.maxHeight}")
  let t ← flushLog t i.logFile
  let root ← Assets.find t i.assets environment
  let t ← flushLog t i.logFile
  let blocks := i.blocks.getD (Assets.blocksPath root)
  let reg ← orFail RegistryFileError.message (t.registry blocks)
  Logged.report .info
    s!"loaded {reg.idByName.size} block types and {reg.biomes.size} biomes from {blocks}"
  let t ← flushLog t i.logFile
  let worlds := i.worlds.getD (Assets.worldsPath root)
  let cfg ← orFail ConfigError.message (t.worlds worlds)
  let settings := rebase root cfg.settings
  let atlas ← (cfg.areas.filter fun a => a.world == world.name).foldlM
    (loadArea t reg settings world) #[]
  if atlas.isEmpty then
    Logged.report .warn s!"no plot areas configured for world '{world.name}'"
  return { tree := t, registry := reg, atlas, fragmentRoot := settings.schematics.root }

/-! ## Commands -/

/-- Report one fragment of an area, if it has a file. -/
def inspectFragment (l : Loaded) (dir : String) (kind : FragmentKind) : Printed Unit := do
  let path := l.tree.fragmentPath dir kind
  if l.tree.isFile path then
    let text :=
      match ← l.tree.unsupportedBlocks l.registry path with
      | .ok [] => path
      | .ok names => path ++ " (unmapped: " ++ ", ".intercalate names ++ ")"
      | .error e => e.message
    Printed.line s!"  {kind.name}: {text}"

/-- Report an area. -/
def inspectArea (l : Loaded) (a : Area) : Printed Unit := do
  let g := a.geometry
  Printed.line s!"area {a.label}"
  let size ← g.size
  Printed.line <| s!"  plot {g.plotWidth} + road {g.roadWidth} (cell {size}), " ++
    s!"heights road={g.roadHeight} plot={g.plotHeight} wall={g.wallHeight}"
  a.region.forM fun r =>
    Printed.line s!"  region ({r.minX}, {r.minZ})..({r.maxX}, {r.maxZ})"
  Printed.line ("  overlay: " ++ a.overlay.summary.text)
  let dir := l.tree.fragmentRoot l.fragmentRoot a.world a.id
  FragmentKind.all.forM (inspectFragment l dir)

/-- Report all areas. -/
def inspect (l : Loaded) : Printed Unit :=
  l.atlas.forM (inspectArea l)

/-- The name of a block type; one without an entry has none. -/
def blockName (reg : Registry) (id : BlockId) : String :=
  match reg.get? id with
  | some t => t.name
  | none => "?"

/-- The lines of a tally. -/
def tallyLines (reg : Registry) (t : Tally) : List String :=
  [s!"chunks: {t.generated} generated, {t.unmanaged} unmanaged, {t.skipped} skipped, " ++
      s!"{t.populated} with entity data",
    s!"voxels: {t.voxels} in {t.layers} layers / {t.sections} sections, " ++
      s!"{t.entityVoxels} entity voxels"] ++
  t.blocks.map fun (id, n) => s!"  {alignLeft 20 (blockName reg id)} {n}"

/-- Generate the chunks of a rectangle and count what they hold. -/
def generateTally (l : Loaded) (world : World) (first last : Int × Int) (workers : Nat)
    (populate : Bool) : Logged Fault Tally := do
  let service : Service := { atlas := l.atlas }
  let (results, _) ← service.run world workers (jobsBetween first last populate)
  return .ofResults results

/-- The line about one voxel of a column. The voxel of the second pass hides the other. -/
def voxelLine? (reg : Registry) (first : Buffer) (second : Option Buffer) (x z : Nat) (y : Int) :
    Option String :=
  ((second.bind fun b => b.voxel? x y z).or (first.voxel? x y z)).map fun v =>
    let biome := ((first.biome? x y z).bind reg.biomeName?).getD "-"
    let rot := (v.rot.map fun r => s!" rot={r}").getD ""
    let height := alignRight 5 (toString y)
    s!"{height} {blockName reg v.block.id} state={v.block.state}{rot} biome={biome}"

/-- The lines about the voxels of a column, from above. -/
def columnLines (l : Loaded) (world : World) (x z : Int) : Logged Fault (List String) := do
  let service : Service := { atlas := l.atlas }
  let cx := x / 16
  let cz := z / 16
  let outcome ← service.generate world cx cz
  match outcome.buffer? with
  | none => return [s!"({x}, {z}) is not inside a plot area of '{world.name}'"]
  | some first =>
    let second ← service.populate world cx cz
    let heights := (Coord.span first.bottom.y first.top.y).reverse
    return heights.filterMap (voxelLine? l.registry first second (x % 16).toNat (z % 16).toNat)

/-- What an invocation prints. -/
def execute (t : FileTree) (environment : Option String) (i : Invocation) :
    Logged Halt Printout := do
  let l ← load t environment i
  match i.command with
  | .inspect => return (inspect l).printout
  | .generate first last workers populate =>
    let tally ← guarded .lost (generateTally l i.world first last workers populate)
    return ⟨tallyLines l.registry tally, none⟩
  | .column x z => return ⟨← guarded .stopped (columnLines l i.world x z), none⟩

/-! ## Runs -/

/-- What a run leaves behind. -/
structure Outcome where
  /-- The exit code, unless the run is killed. -/
  code : Option Nat
  /-- The lines of standard output. -/
  lines : List String
  /-- What went wrong, for the user. -/
  message : Option String
  notices : Array Notice

/-- How to call the program. -/
def usage : List String :=
  ["Generate plot world chunks from area configs and fragments",
   "",
   "usage: plotgrid [--assets DIR] [--blocks FILE] [--worlds FILE] [--log-file FILE] COMMAND",
   "  inspect   load every area of a world, build overlays and report them",
   "  generate  [--from CX CZ] [--to CX CZ] [--workers N] [--populate]",
   "  column    --x X --z Z",
   "each command: [--world NAME] [--min-height Y] [--max-height Y]"]

/-- The outcome of a command line. -/
def run (t : FileTree) (environment : Option String) (words : List String) : Outcome :=
  match Invocation.ofWords words with
  | .error .help => ⟨some 0, usage, none, #[]⟩
  | .error .refused => ⟨some 2, [], some "bad arguments, see --help", #[]⟩
  | .ok i =>
    match (execute t environment i).exec with
    | (.ok ⟨lines, none⟩, notices) => ⟨some 0, lines, none, notices⟩
    | (.ok ⟨lines, some halt⟩, notices) => ⟨halt.code, lines, some halt.message, notices⟩
    | (.error halt, notices) => ⟨halt.code, [], some halt.message, notices⟩

end PlotGrid.CommandLine
