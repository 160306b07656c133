import PlotGrid.Files.Tree

/-!
# Fragment kinds and their files

A plot world may carry three fragments, each in a file of its own.

- `FragmentKind`: plot template, road segment, intersection.
- `FragmentKind.all`: the kinds in the order in which they are loaded.
- `FileTree.fragmentRoot`, `FileTree.fragmentPath`: where the file of a kind is looked for.
-/

namespace PlotGrid

/-- The fragments of a plot world. -/
inductive FragmentKind
  | plot
  | sideroad
  | intersection
  deriving Repr, DecidableEq

namespace FragmentKind

/-- The order of loading: the road fragments come first, so that theirs is the error that is
reported when several files are broken. -/
def all : List FragmentKind :=
  [.sideroad, .intersection, .plot]

/-- The name of a kind, which its file has too. -/
def name : FragmentKind → String
  | .plot => "plot"
  | .sideroad => "sideroad"
  | .intersection => "intersection"

/-- The kind of a name. -/
def ofName? (text : String) : Option FragmentKind :=
  all.find? fun k => k.name == text

end FragmentKind

namespace FileTree

/-- The directory of an area's fragments: its own one below the world's if that is there, else the
world's. -/
def fragmentRoot (t : FileTree) (root world : String) (area : Option String) : String :=
  let worldDir := Path.join root world
  match area with
  | some id =>
    let areaDir := Path.join worldDir id
    if t.isDirectory areaDir then areaDir else worldDir
  | none => worldDir

/-- The file of a kind: the one with the new ending if it is there, else the one with the old
ending. -/
def fragmentPath (t : FileTree) (dir : String) (kind : FragmentKind) : String :=
  let modern := Path.join dir (kind.name ++ ".schem")
  if t.isFile modern then modern else Path.join dir (kind.name ++ ".schematic")

end FileTree

end PlotGrid
