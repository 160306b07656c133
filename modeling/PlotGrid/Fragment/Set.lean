import PlotGrid.Fragment.Load

/-!
# Fragment sets

The fragments of one area; any of them may be absent.

- `Fragments`
- `Fragments.load`: load the three kinds from a directory, or name the first that fails.
-/

namespace PlotGrid

/-- The fragments of an area. -/
structure Fragments where
  plot : Option Clip
  sideroad : Option Clip
  intersection : Option Clip
  deriving DecidableEq

/-- The fragment that failed to load, and why. -/
structure FragmentFailure where
  kind : FragmentKind
  cause : FragmentError
  deriving Repr, DecidableEq

namespace FragmentFailure

/-- The text of a failure. -/
def message (e : FragmentFailure) : String :=
  match e.cause with
  | .unsupported _ _ => s!"{e.kind.name} fragment has an unsupported format: {e.cause.message}"
  | .unreadable _ _ => s!"{e.kind.name} fragment could not be read: {e.cause.message}"

end FragmentFailure

namespace Fragments

/-- No fragment. -/
def none : Fragments :=
  ⟨.none, .none, .none⟩

/-- No fragment is present. -/
def isEmpty (f : Fragments) : Bool :=
  f.plot.isNone && f.sideroad.isNone && f.intersection.isNone

/-- The set with another fragment of a kind. -/
def set (f : Fragments) (kind : FragmentKind) (clip : Option Clip) : Fragments :=
  match kind with
  | .plot => { f with plot := clip }
  | .sideroad => { f with sideroad := clip }
  | .intersection => { f with intersection := clip }

/-- Load one kind into a set. -/
def loadKind (tree : FileTree) (source : FragmentSource) (dir : String) (f : Fragments)
    (kind : FragmentKind) : ExceptT FragmentFailure (Logged Fault) Fragments := do
  let path := tree.fragmentPath dir kind
  let clip ← (source path).adapt fun cause => ⟨kind, cause⟩
  if clip.isSome then
    Logged.report .debug s!"- {kind.name} fragment: {path}"
  return f.set kind clip

/-- Load all kinds in their order; the first that fails is the failure. -/
def load (tree : FileTree) (source : FragmentSource) (dir : String) :
    ExceptT FragmentFailure (Logged Fault) Fragments :=
  FragmentKind.all.foldlM (loadKind tree source dir) none

end Fragments

end PlotGrid
