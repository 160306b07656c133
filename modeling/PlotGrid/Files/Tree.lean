import PlotGrid.Files.Content
import PlotGrid.Files.Path

/-!
# File trees

The files that a run can see: those below the current directory, and those that are known by their
absolute path. The directories on the way up from the current one are there; where the current one
is not known, nothing is known of what else they hold.

- `FileTree`: directories and files by their names.
- `FileTree.up`, `FileTree.down`, `FileTree.follow`: from one directory to the next.
- `FileTree.find`: what a path leads to, or why it leads nowhere.
- `FileTree.isFile`, `FileTree.isDirectory`, `FileTree.exists?`: what is there.
- `FileTree.content?`, `FileTree.readText`: the content of a file.
- `FileTree.addDirectory`, `FileTree.addFile`: build a tree.
- `FileTree.writeText`: write a file as a run does.
-/

namespace PlotGrid

/-- What a path leads to. -/
inductive FileNode
  | directory
  | file (content : FileContent)

/-- Why a path cannot be read. -/
inductive FileError
  | missing
  | notDirectory
  | isDirectory
  | notText
  /-- The path or a name in it is too long. -/
  | longName
  /-- The path has a character in it that ends texts. -/
  | nulCharacter
  deriving Repr, DecidableEq

namespace FileError

/-- The text of an error. -/
def message : FileError → String
  | .missing => "No such file or directory (os error 2)"
  | .notDirectory => "Not a directory (os error 20)"
  | .isDirectory => "Is a directory (os error 21)"
  | .notText => "stream did not contain valid UTF-8"
  | .longName => "File name too long (os error 36)"
  | .nulCharacter => "file name contained an unexpected NUL byte"

/-- Why a path cannot even be followed. -/
def ofPath? (path : String) : Option FileError :=
  if path.toList.contains '\x00' then some .nulCharacter
  else if path.isEmpty then some .missing
  else if Path.limit ≤ path.utf8ByteSize then some .longName
  else none

end FileError

/-- The files that are known, and how the schematics among them are read. The names of a file count
from the current directory down; a file that is known by its absolute path has an empty name in
front of its names. -/
structure FileTree where
  /-- The absolute path of the current directory, or a text that stands for one. -/
  top : String
  nodes : List (List String × FileNode)
  reader : SchematicReader

namespace FileTree

/-- A tree without files. -/
def empty (top : String) : FileTree :=
  ⟨top, [], .standard⟩

/-- The names of the current directory from the root, or none of them if it is not known where the
current directory is. -/
def above (t : FileTree) : List String :=
  if Path.isAbsolute t.top then Path.names t.top else []

/-- The node of a list of names. No name leads to the current directory, and the empty name to the
root; the directories between these two are there. -/
def node? (t : FileTree) (names : List String) : Option FileNode :=
  if names = [""] ∨ names.isPrefixOf t.above then some .directory else t.nodes.lookup names

/-- A directory that a path has come to. -/
inductive Place
  /-- Below the current directory or below the root. -/
  | inside (names : List String)
  /-- On the way up from the current directory, when it is not known where that is. -/
  | outside

/-- The directory above a place. The root is above itself. -/
def up (t : FileTree) : Place → Place
  | .outside => .outside
  | .inside [] => if t.above = [] then .outside else .inside t.above.dropLast
  | .inside [""] => .inside [""]
  | .inside names => .inside names.dropLast

/-- The names of what a directory holds under a name. The current directory has no names. -/
def down (t : FileTree) (names : List String) (name : String) : List String :=
  if names ++ [name] = t.above then [] else names ++ [name]

/-- Follow one name of a path. -/
def follow (t : FileTree) : Place → String → Except FileError Place
  | .outside, name =>
    if name = "" ∨ name = "." ∨ name = ".." then .ok .outside
    else if Path.isLongName name then .error .longName
    else .error .missing
  | .inside names, name =>
    match t.node? names with
    | none => .error .missing
    | some (.file _) => .error .notDirectory
    | some .directory =>
      if name = "" ∨ name = "." then .ok (.inside names)
      else if name = ".." then .ok (t.up (.inside names))
      else if Path.isLongName name then .error .longName
      else if (t.node? (t.down names name)).isSome then .ok (.inside (t.down names name))
      else .error .missing

/-- Where a path starts and the names to follow from there. -/
def start (t : FileTree) (path : String) : Place × List String :=
  let names := Path.names path
  let top := Path.names t.top
  if top.isPrefixOf names && !t.top.isEmpty then (.inside [], names.drop top.length)
  else if Path.isAbsolute path then (.inside [""], names)
  else (.inside [], names)

/-- What a path leads to. -/
def find (t : FileTree) (path : String) : Except FileError FileNode := do
  if let some e := FileError.ofPath? path then throw e
  let (place, names) := t.start path
  match ← names.foldlM t.follow place with
  | .outside => return .directory
  | .inside names =>
    match t.node? names with
    | some n => return n
    | none => throw .missing

/-- Whether a path leads to something. -/
def exists? (t : FileTree) (path : String) : Bool :=
  match t.find path with
  | .ok _ => true
  | .error _ => false

/-- Whether a path leads to a file. -/
def isFile (t : FileTree) (path : String) : Bool :=
  match t.find path with
  | .ok (.file _) => true
  | _ => false

/-- Whether a path leads to a directory. -/
def isDirectory (t : FileTree) (path : String) : Bool :=
  match t.find path with
  | .ok .directory => true
  | _ => false

/-- The content of the file that a path leads to. -/
def content? (t : FileTree) (path : String) : Option FileContent :=
  match t.find path with
  | .ok (.file content) => some content
  | _ => none

/-- The text of a file. -/
def readText (t : FileTree) (path : String) : Except FileError String := do
  match ← t.find path with
  | .directory => throw .isDirectory
  | .file (.schematic _) => throw .notText
  | .file .other => throw .notText
  | .file (.text s) => return s

/-! ## Building a tree -/

/-- Put a node in place of any earlier one of the same names. -/
def put (t : FileTree) (names : List String) (n : FileNode) : FileTree :=
  { t with nodes := (names, n) :: t.nodes }

/-- Follow one name and make a directory of that name if there is nothing. -/
def enter : FileTree × Place → String → FileTree × Place
  | (t, .outside), _ => (t, .outside)
  | (t, .inside names), name =>
    if name = "" ∨ name = "." then (t, .inside names)
    else if name = ".." then (t, t.up (.inside names))
    else
      let below := t.down names name
      (if (t.node? below).isSome then t else t.put below .directory, .inside below)

/-- Add a directory and those on the way to it. -/
def addDirectory (t : FileTree) (path : String) : FileTree :=
  let (place, names) := t.start path
  (names.foldl enter (t, place)).1

/-- Add a file and the directories on the way to it. -/
def addFile (t : FileTree) (path : String) (content : FileContent) : FileTree :=
  let (place, names) := t.start path
  match names.getLast?, names.dropLast.foldl enter (t, place) with
  | some last, (t, .inside above) => t.put (t.down above last) (.file content)
  | _, (t, _) => t

/-- Write a text file in place of any earlier one. Its directory has to be there; otherwise nothing
is written. -/
def writeText (t : FileTree) (path text : String) : Option FileTree := do
  let (place, names) := t.start path
  let last ← names.getLast?
  if (FileError.ofPath? path).isSome ∨ Path.isLongName last then none
  else if last = "" ∨ last = "." ∨ last = ".." then none
  else
    match names.dropLast.foldlM t.follow place with
    | .ok (.inside above) =>
      match t.node? above, t.node? (t.down above last) with
      | some .directory, some .directory => none
      | some .directory, _ => some (t.put (t.down above last) (.file (.text text)))
      | _, _ => none
    | _ => none

end FileTree

end PlotGrid
