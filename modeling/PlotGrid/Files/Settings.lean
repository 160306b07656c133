import PlotGrid.Area.Basic
import PlotGrid.Doc.Toml.Text
import PlotGrid.Registry.Config

/-!
# Settings files

The two files that a run is set up from: the definitions of the registry and the plot worlds.

- `RegistryFileError`: why a registry cannot be had from a file.
- `RegistryConfig.ofToml?`, `WorldsConfig.ofToml?`: what a text says.
- `FileTree.registry`, `FileTree.worlds`: what a file says.
-/

namespace PlotGrid

/-- Why a registry cannot be had from a file. -/
inductive RegistryFileError
  | unreadable (cause : FileError)
  | malformed
  | invalid (cause : RegistryError)
  deriving Repr, DecidableEq

/-- The text of an error. -/
def RegistryFileError.message : RegistryFileError → String
  | .unreadable cause => cause.message
  | .malformed => "TOML parse error"
  | .invalid cause => cause.message

/-- The definitions that a text holds. -/
def RegistryConfig.ofToml? (text : String) : Option RegistryConfig :=
  (Toml.read? text).bind (ofDoc? .ignored)

/-- The plot worlds that a text holds. -/
def WorldsConfig.ofToml? (text : String) : Option WorldsConfig :=
  (Toml.read? text).bind (ofDoc? .ignored)

namespace FileTree

/-- The registry that a file defines. -/
def registry (t : FileTree) (path : String) : Except RegistryFileError Registry := do
  match t.readText path with
  | .error e => throw (.unreadable e)
  | .ok text =>
    match RegistryConfig.ofToml? text with
    | none => throw .malformed
    | some cfg => (Registry.build cfg).mapError .invalid

/-- The plot worlds that a file configures. -/
def worlds (t : FileTree) (path : String) : Except ConfigError WorldsConfig := do
  match t.readText path with
  | .error e => throw (.unreadable path e)
  | .ok text =>
    match WorldsConfig.ofToml? text with
    | none => throw .malformed
    | some cfg => return cfg

end FileTree

end PlotGrid
