import PlotGrid.CommandLine.Program

/-!
# Paths of a run

The paths that a run may look at. They are found in two rounds, for the settings say where the
fragments are.

- `settingsPaths`: the directories of assets, the settings files and the log file.
- `fragmentPaths`: the directories of fragments and the files in them.
-/

namespace PlotGrid.CommandLine

/-- The directories that may turn out to be the directory of assets. -/
def assetRoots (top : String) (environment : Option String) (i : Invocation) : List String :=
  i.assets.toList ++ environment.toList ++ Assets.ancestors top

/-- The paths that are looked at for the settings. -/
def settingsPaths (top : String) (environment : Option String) (i : Invocation) : List String :=
  let roots := assetRoots top environment i
  roots ++ roots.map Assets.blocksPath ++ roots.map Assets.worldsPath ++ i.blocks.toList ++
    i.worlds.toList ++ i.logFile.toList

/-- The paths of the fragments in a directory. -/
def fragmentFiles (dir : String) : List String :=
  FragmentKind.all.flatMap fun kind =>
    [Path.join dir (kind.name ++ ".schem"), Path.join dir (kind.name ++ ".schematic")]

/-- The directories that may turn out to hold the fragments of an area. -/
def fragmentDirs (root : String) (cfg : AreaConfig) : List String :=
  let worldDir := Path.join root cfg.world
  worldDir :: cfg.id.toList.map (Path.join worldDir)

/-- The paths that are looked at for the fragments, once the settings are known. -/
def fragmentPaths (t : FileTree) (environment : Option String) (i : Invocation) : List String :=
  match (Assets.find t i.assets environment : Logged Halt String).exec with
  | (.ok root, _) =>
    match t.worlds (i.worlds.getD (Assets.worldsPath root)) with
    | .ok cfg =>
      let root := (rebase root cfg.settings).schematics.root
      let areas := cfg.areas.filter fun a => a.world == i.world.name
      areas.flatMap fun a => (fragmentDirs root a).flatMap fun dir => dir :: fragmentFiles dir
    | .error _ => []
  | (.error _, _) => []

end PlotGrid.CommandLine
