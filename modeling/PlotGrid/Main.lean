import PlotGrid.CommandLine.Paths

/-!
# Main

The program: it reads the files that a command line may look at, runs it, and prints the outcome.
-/

namespace PlotGrid

/-- The content of a file. -/
def contentOf (path : String) : IO FileContent := do
  try
    return .text (← IO.FS.readFile path)
  catch _ =>
    return .other

/-- Enter what a path leads to into a tree. -/
def enterPath (t : FileTree) (path : String) : IO FileTree := do
  try
    let real ← IO.FS.realPath path
    if ← real.isDir then return t.addDirectory path
    return t.addFile path (← contentOf path)
  catch _ =>
    return t

/-- The files that a command line may look at. -/
def gather (top : String) (environment : Option String) (words : List String) : IO FileTree := do
  let blank := FileTree.empty top
  match CommandLine.Invocation.ofWords words with
  | .error _ => return blank
  | .ok i =>
    let settings ← (CommandLine.settingsPaths top environment i).foldlM enterPath blank
    (CommandLine.fragmentPaths settings environment i).foldlM enterPath settings

/-- Write notices to the log file if there is one, else errors to standard error. -/
def writeLog (words : List String) (notices : Array Notice) : IO Unit := do
  let lines (keep : Notice → Bool) : String :=
    String.join ((notices.toList.filter keep).map fun n => n.line ++ "\n")
  match CommandLine.Invocation.ofWords words with
  | .ok { logFile := some path, .. } =>
    try IO.FS.writeFile path (lines CommandLine.isLogged)
    catch _ => IO.eprintln s!"cannot open log file {path}"
  | _ => IO.eprint (lines fun n => n.severity == .error)

end PlotGrid

open PlotGrid in
/-- Run a command line. -/
def main (words : List String) : IO UInt32 := do
  let top := (← IO.currentDir).toString
  let environment ← IO.getEnv "PLOTGEN_ASSETS"
  let outcome := CommandLine.run (← gather top environment words) environment words
  writeLog words outcome.notices
  for line in outcome.lines do
    IO.println line
  match outcome.message with
  | some message => IO.eprintln s!"error: {message}"
  | none => pure ()
  return (outcome.code.getD 134).toUInt32
