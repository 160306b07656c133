import PlotGrid.Files.Settings

/-!
# Assets

Where the settings of a run come from: a directory of assets with the two settings files in it.

- `Assets.blocksPath`, `Assets.worldsPath`: the settings files of a directory.
- `Assets.search`: the nearest directory that has a registry file.
- `Assets.find`: the directory of a run.
-/

namespace PlotGrid.CommandLine.Assets

/-- The file of the registry below a directory of assets. -/
def blocksPath (root : String) : String :=
  Path.join root "assets/blocks.toml"

/-- The file of the plot worlds below a directory of assets. -/
def worldsPath (root : String) : String :=
  Path.join root "assets/worlds.toml"

/-- The number of directories that are searched: a directory and those above it. -/
def reach : Nat := 5

/-- The path of a list of names. -/
def pathOf (names : List String) : String :=
  if names = [""] then "/" else "/".intercalate names

/-- A directory and those above it, the nearest first. -/
def ancestors (dir : String) : List String :=
  let names := Path.names dir
  (List.range (min reach names.length)).map fun up => pathOf (names.take (names.length - up))

/-- The nearest directory, from the current one upwards, with a registry file. Without one it is the
current directory. -/
def search (t : FileTree) : String :=
  ((ancestors t.top).find? fun dir => t.exists? (blocksPath dir)).getD t.top

/-- The directory of a run: the one that is asked for if it is there, else the one that the
environment names if it is there, else the nearest one that is found. -/
def find {ε : Type} (t : FileTree) (asked environment : Option String) : Logged ε String := do
  match asked.filter t.exists? with
  | some dir => return dir
  | none =>
    match asked with
    | some dir => Logged.report .warn s!"assets root {dir} does not exist, searching"
    | none => pure ()
    return (environment.filter t.exists?).getD (search t)

end PlotGrid.CommandLine.Assets
