import PlotGrid.Fault
import PlotGrid.Fragment.Schematic

/-!
# What files hold

Texts are read as they are. Schematics have formats of their own, so they are left to a reader.

- `FileContent`: the content of a file.
- `SchematicReader`: whatever reads schematics.
- `SchematicReader.standard`: the reader of files that are named as schematics are.
-/

namespace PlotGrid

/-- The content of a file. -/
inductive FileContent
  | text (s : String)
  | schematic (s : Schematic)
  /-- Neither of these. -/
  | other

/-- Reads the schematic at a path, where there may be a file with some content, or says what is
wrong with it. -/
abbrev SchematicReader := String → Option FileContent → Checked (Except String SchematicView)

/-- The reader of the files that hold a schematic and are named as schematics are. It overflows on
a schematic of exactly one cell. -/
def SchematicReader.standard : SchematicReader := fun path content =>
  match content with
  | some (.schematic s) =>
    if path.endsWith ".schem" || path.endsWith ".schematic" then
      if s.cells.size = 1 then .error .overflow else .ok (.ok s.view)
    else .ok (.error "unknown format")
  | _ => .ok (.error "no schematic")

end PlotGrid
