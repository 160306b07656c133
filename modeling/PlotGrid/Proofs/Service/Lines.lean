import Mathlib.Data.List.Forall2
import PlotGrid.CommandLine.Program

/-!
# The lines about a tally

A tally is printed as two lines of counts, and then one row for each entry of its histogram, in the
order of the histogram. A row has the name of the block, with blanks behind it up to a width, and
the number of its voxels.

- `CommandLine.alignLeft_eq`: a text of fixed width.
- `CommandLine.ShowsEntry`: a row of the histogram.
- `Tally.ShownBy`: lines that show a tally.
- `Tally.shownBy_tallyLines`: the printed lines do.
-/

namespace PlotGrid

namespace CommandLine

/-- A text of fixed width is the text with the missing blanks behind it. -/
theorem alignLeft_eq (width : Nat) (text : String) :
    alignLeft width text = text ++ .ofList (.replicate (width - text.length) ' ') := by
  rw [alignLeft, List.rightpad, String.ofList_append, String.ofList_toList, String.length_toList]

/-- A line shows an entry of a histogram: the name of the block, if it has an entry in the registry,
with blanks up to twenty characters, and the number of its voxels. -/
def ShowsEntry (reg : Registry) (e : BlockId × Nat) (line : String) : Prop :=
  ∃ name, (∀ t, reg.get? e.1 = some t → name = t.name) ∧ (reg.get? e.1 = none → name = "?") ∧
    line = "  " ++ (name ++ .ofList (.replicate (20 - name.length) ' ')) ++ " " ++ toString e.2

theorem showsEntry_row (reg : Registry) (e : BlockId × Nat) :
    ShowsEntry reg e s!"  {alignLeft 20 (blockName reg e.1)} {e.2}" := by
  refine ⟨blockName reg e.1, fun t ht => ?_, fun hnone => ?_, ?_⟩
  · rw [blockName, ht]
  · rw [blockName, hnone]
  · rw [← alignLeft_eq]
    rfl

end CommandLine

namespace Tally

open CommandLine

/-- **Lines show a tally**: its counts stand in the first two lines, and each line after them shows
one entry of its histogram, all of them in their order. -/
structure ShownBy (t : Tally) (reg : Registry) (lines : List String) : Prop where
  chunks : lines[0]? = some (s!"chunks: {t.generated} generated, {t.unmanaged} unmanaged, " ++
    s!"{t.skipped} skipped, {t.populated} with entity data")
  voxels : lines[1]? =
    some (s!"voxels: {t.voxels} in {t.layers} layers / {t.sections} sections, " ++
      s!"{t.entityVoxels} entity voxels")
  rows : List.Forall₂ (ShowsEntry reg) t.blocks (lines.drop 2)

/-- **The printed lines show the tally.** -/
theorem shownBy_tallyLines (reg : Registry) (t : Tally) : t.ShownBy reg (tallyLines reg t) where
  chunks := by
    refine congrArg some ?_
    simp only [String.append_assoc]
  voxels := rfl
  rows := by
    show List.Forall₂ _ _ (t.blocks.map _)
    rw [List.forall₂_map_right_iff, List.forall₂_same]
    exact fun e _ => showsEntry_row reg e

end Tally

end PlotGrid
