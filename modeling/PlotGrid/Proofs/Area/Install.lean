import PlotGrid.Proofs.Area.Accepted
import PlotGrid.Proofs.Area.Passes
import PlotGrid.Proofs.Outcome
import PlotGrid.Proofs.Overlay.Fitting

/-!
# Installed overlays

An area that was made from a configuration starts with an overlay without content. Installing
fragments replaces the overlay by the one that is built from them and leaves everything else.

- `Overlay.columnHeight_of_build`, `Overlay.narrow_of_build`: how high the columns of an overlay
  are.
- `Overlay.IsBlank`, `Area.Sound.isBlank`: the overlay of an area that was just made.
- `Overlay.yields_build`: a build ends in the same way whatever was reported before.
- `Area.built`, `Area.yields_install`: what an installation shows, and how it ends.
- `Area.install_eq_ok`, `Area.exists_install_eq`: what installing changes, and that it goes through.
- `Area.Sound.appliesTo_eq_false`: the overlay of an area that was just made applies nowhere.
-/

namespace PlotGrid

/-! ## Columns of overlays -/

namespace Overlay

variable {reg : Registry} {g : Geometry} {s : SchematicSettings} {f : Fragments} {o : Overlay}
  {notices : Array Notice}

/-- A column of an overlay is as high as one of the fragments makes it. -/
theorem columnHeight_of_build (h : (build reg g s f).exec = (.ok o, notices)) {key n : Nat}
    (hn : o.columnSize? key = some n) :
    ∃ slot c, Slot.clip? f slot = some c ∧
      Coord.InRange (slot.columnHeight ⟨g, s, o.anchors⟩ c) ∧
      n = (slot.columnHeight ⟨g, s, o.anchors⟩ c).toNat := by
  rw [columnSize?_of_build h] at hn
  obtain ⟨blank, hstart, hheights, -⟩ := build_eq_ok h
  have hanchors : o.anchors = blank.anchors :=
    Except.ok.inj ((start_of_build h).1.symm.trans (start_eq_ok hstart).1)
  -- some placement has asked for the height, and it is none of a biome
  obtain ⟨p, hp, hheight⟩ := List.exists_of_findSome?_eq_some hn
  rcases Fragments.of_mem_course hp with ⟨t, ht, rfl⟩ | ⟨x, z, tag, rfl⟩
  · obtain ⟨hof, hroad⟩ := Fragments.mem_sites_iff.mp ht
    refine ⟨t.slot, t.clip, hof.clip, ?_, ?_⟩
    · rw [hanchors]
      exact hheights t.slot t.clip hof.clip hroad
    · simp only [Site.placement, Slot.voxelPlacement, Placement.heightAt?] at hheight
      split at hheight
      · exact (Option.some.inj hheight).symm
      · cases hheight
  · cases hheight

/-- The heights of the columns of an overlay are coordinates. -/
theorem narrow_of_build (h : (build reg g s f).exec = (.ok o, notices)) : o.Narrow := by
  intro key n hn
  obtain ⟨slot, c, -, hrange, rfl⟩ := columnHeight_of_build h hn
  have hrange := Coord.inRange_iff.mp hrange
  exact Coord.inRange_iff.mpr ⟨by omega, by omega⟩

theorem narrow_of_columns (h : o.columns = ∅) : o.Narrow := by
  intro key n hn
  rw [columnSize?, h, Std.HashMap.getElem?_empty] at hn
  cases hn

/-- If the heights of all columns are coordinates in the world, an overlay can be stamped. -/
theorem canStamp_of_build (h : (build reg g s f).exec = (.ok o, notices))
    (hlow : Coord.InRange o.anchors.schemY)
    (hhigh : ∀ slot c, Slot.clip? f slot = some c →
      Coord.InRange (o.anchors.schemY + slot.columnHeight ⟨g, s, o.anchors⟩ c))
    (entities : Bool) (rx rz : Int) : o.CanStamp entities rx rz := by
  intro i v hv _
  unfold cell? at hv
  split at hv
  · rename_i hi
    -- a voxel lies below the top of its column
    have hsize : ∃ n, o.columnSize? (Cell.key o.size rx rz) = some n ∧ i.toNat < n := by
      refine Classical.byContradiction ?_
      intro hnone
      rw [held?_eq_none_of_size fun n hn => Nat.le_of_not_lt fun hlt => hnone ⟨n, hn, hlt⟩] at hv
      cases hv
    obtain ⟨n, hn, hlt⟩ := hsize
    obtain ⟨slot, c, hc, -, rfl⟩ := columnHeight_of_build h hn
    have hlow := Coord.inRange_iff.mp hlow
    have hhigh := Coord.inRange_iff.mp (hhigh slot c hc)
    exact Coord.inRange_iff.mpr ⟨by omega, by omega⟩
  · cases hv

/-- The outcome of a build does not depend on what was reported before. -/
theorem yields_build (reg : Registry) (g : Geometry) (s : SchematicSettings) (f : Fragments) :
    (build reg g s f).Yields (build reg g s f).exec.1 := by
  suffices ∃ r, (build reg g s f).Yields r by
    obtain ⟨r, hr⟩ := this
    rw [hr.exec_eq]
    exact hr
  unfold build
  cases start g s f with
  | error fault => exact ⟨_, .bind_error (.ofExcept (.error fault)) _⟩
  | ok blank =>
    cases hrun : Draft.placeAll reg ⟨blank, []⟩ (f.placements g s blank.anchors) with
    | mk d stop =>
      cases stop with
      | none =>
        refine ⟨.ok d.overlay, .bind (.ofExcept (.ok blank)) ?_⟩
        rw [hrun]
        exact .bind (.reports _ _ _) (.ok _)
      | some fault =>
        refine ⟨.error fault, .bind (.ofExcept (.ok blank)) ?_⟩
        rw [hrun]
        exact .bind (.reports _ _ _) (.ofExcept (.error fault))

/-- The overlay without fragments: nothing in it, at the heights without fragments. -/
structure IsBlank (g : Geometry) (s : SchematicSettings) (o : Overlay) : Prop where
  size : g.size = .ok o.size
  anchors : Anchors.compute g s none none = .ok o.anchors
  columns : o.columns = ∅
  biomes : o.biomes = ∅
  hasPlot : o.hasPlot = false
  hasRoad : o.hasRoad = false

end Overlay

/-! ## Areas -/

namespace Area

variable {a a₀ : Area} {f : Fragments} {summary : OverlaySummary} {notices : Array Notice}

/-- The areas differ in their overlays at most. -/
def VariantOf (a a₀ : Area) : Prop :=
  a = { a₀ with overlay := a.overlay }

theorem VariantOf.geometry_eq (h : a.VariantOf a₀) : a.geometry = a₀.geometry := by
  unfold VariantOf at h
  rw [h]

theorem VariantOf.blocks_eq (h : a.VariantOf a₀) : a.blocks = a₀.blocks := by
  unfold VariantOf at h
  rw [h]

/-- The overlay of a set of fragments, or the fault that stops its build. -/
def built (a : Area) (f : Fragments) : Checked Overlay :=
  (Overlay.build a.registry a.geometry a.schematics f).exec.1

/-- **An installation shows the overlay that was built**, or stops as the build does. -/
theorem yields_install (a : Area) (f : Fragments) :
    (a.install f).Yields ((a.built f).map fun o => ({ a with overlay := o }, o.summary)) := by
  have hbuild := Overlay.yields_build a.registry a.geometry a.schematics f
  unfold install built
  cases hbuilt : (Overlay.build a.registry a.geometry a.schematics f).exec.1 with
  | error fault =>
    rw [hbuilt] at hbuild
    exact .bind_error hbuild _
  | ok o =>
    rw [hbuilt] at hbuild
    refine .bind hbuild ?_
    dsimp only
    split
    · exact .bind (.report _ _) (.ok _)
    · exact .bind (.report _ _) (.ok _)

/-- An installation that goes through shows what was built, whatever was reported before. -/
theorem install_run_eq_ok {a' : Area} {summary : OverlaySummary} {before after : Array Notice}
    (h : (a.install f).run before = (.ok (a', summary), after)) :
    ∃ o, a.built f = .ok o ∧ a' = { a with overlay := o } ∧ summary = o.summary := by
  obtain ⟨_, hrun⟩ := a.yields_install f before
  rw [h] at hrun
  obtain ⟨o, ho, hresult⟩ := Checked.map_eq_ok_iff.mp (Prod.mk.inj hrun).1.symm
  obtain ⟨harea, hsummary⟩ := Prod.mk.inj hresult
  exact ⟨o, ho, harea.symm, hsummary.symm⟩

/-- **Installing fragments replaces the overlay** and leaves everything else. -/
theorem install_eq_ok (h : (a₀.install f).exec = (.ok (a, summary), notices)) :
    a.VariantOf a₀ ∧ ∃ reports, (Overlay.build a₀.registry a₀.geometry a₀.schematics f).exec =
      (.ok a.overlay, reports) := by
  obtain ⟨o, ho, rfl, -⟩ := install_run_eq_ok h
  exact ⟨rfl, _, Prod.ext ho rfl⟩

/-- A build that overflows makes the installation overflow. -/
theorem build_of_install (h : (a.install f).exec.1 ≠ .error .overflow) :
    (Overlay.build a.registry a.geometry a.schematics f).exec.1 ≠ .error .overflow := by
  intro hbuild
  refine h ?_
  rw [(a.yields_install f).exec_eq, built, hbuild]
  rfl

/-- An installation goes through if its build does. -/
theorem exists_install_eq {o : Overlay} {reports : Array Notice}
    (h : (Overlay.build a.registry a.geometry a.schematics f).exec = (.ok o, reports)) :
    ∃ notices, (a.install f).exec = (.ok ({ a with overlay := o }, o.summary), notices) := by
  refine ⟨_, Prod.ext ?_ rfl⟩
  rw [(a.yields_install f).exec_eq, built, h]
  rfl

theorem Sound.hasCell (h : a.Sound) : a.HasCell := by
  have hplot := h.geometry.plot
  have hroad := h.geometry.road
  unfold HasCell
  omega

/-- The overlay without fragments is blank. -/
theorem isBlank_of_blankOverlay {g : Geometry} {s : SchematicSettings} {o : Overlay}
    (h : blankOverlay g s = .ok o) : o.IsBlank g s := by
  obtain ⟨anchors, hanchors, h⟩ := Checked.bind_eq_ok_iff.mp h
  obtain ⟨size, hsize, h⟩ := Checked.bind_eq_ok_iff.mp h
  unfold Overlay.empty? at h
  split at h
  · rw [← Except.ok.inj h]
    exact ⟨hsize, hanchors, rfl, rfl, rfl, rfl⟩
  · cases h

theorem Sound.isBlank (h : a.Sound) : a.overlay.IsBlank a.geometry a.schematics :=
  isBlank_of_blankOverlay h.overlay

theorem Sound.narrow (h : a.Sound) : a.overlay.Narrow :=
  Overlay.narrow_of_columns h.isBlank.columns

/-- The overlay without fragments applies nowhere. -/
theorem Sound.appliesTo_eq_false (h : a.Sound) (kind : ColumnKind) :
    a.overlay.appliesTo kind = false :=
  Overlay.appliesTo_of_flags h.isBlank.hasRoad h.isBlank.hasPlot kind

end Area

/-! ## A small area with fragments -/

/-- The small cell and its roads on all sides. -/
def Buffer.small : Buffer :=
  ⟨⟨0, 0, 0⟩, ⟨2, 7, 2⟩, .empty 3 3 8, none⟩

theorem Buffer.small_new : Buffer.new? ⟨0, 0, 0⟩ ⟨2, 7, 2⟩ false = .ok .small :=
  rfl

theorem Buffer.small_fresh : Buffer.small.Fresh :=
  fresh_of_new? (by decide) (by decide) small_new

theorem Area.small_build : ∃ o reports,
    (Overlay.build .small .small .default .small).exec = (.ok o, reports) :=
  Overlay.exists_build_eq Geometry.small_paved (Overlay.small_runs .small)

theorem Geometry.small_columns : ∃ columns, columnsOf .small ⟨0, 0, 0⟩ 3 3 = .ok columns ∧
    ⟨1, 1, 1, 1, .plot⟩ ∈ columns :=
  ⟨_, rfl, by decide⟩

theorem Overlay.small_anchors_of_build {o : Overlay} {reports : Array Notice}
    (hbuild : (build .small .small .default .small).exec = (.ok o, reports)) :
    o.anchors = ⟨3, 0, 1⟩ := by
  have hanchors := (start_of_build hbuild).1
  rw [Fragments.small_anchors] at hanchors
  exact (Except.ok.inj hanchors).symm

/-- The heights of a small area are coordinates, whatever its overlay is. -/
theorem Area.small_canFill (o : Overlay) (kind : ColumnKind) :
    { small with overlay := o }.CanFill kind := by
  cases kind with
  | road => trivial
  | wall => exact fun _ => show Coord.InRange 5 by decide
  | plot => exact show Coord.InRange 2 by decide

/-- Neither pass over a buffer overflows if its columns can be had. -/
theorem Area.small_runs_of {o : Overlay} {reports : Array Notice} {b : Buffer}
    (hbuild : (Overlay.build .small .small .default .small).exec = (.ok o, reports)) (hb : b.Fresh)
    (hcolumns : ∃ columns, columnsOf .small b.bottom b.width b.length = .ok columns) :
    ¬ Overflows ({ small with overlay := o }.generate.exec b).1 ∧
      ¬ Overflows ({ small with overlay := o }.populate.exec b).1 := by
  have hcell : { small with overlay := o }.HasCell := show (0 : Int) < 2 + 1 by decide
  have ho := Overlay.narrow_of_build hbuild
  have hanchors := Overlay.small_anchors_of_build hbuild
  have hstamp (entities : Bool) (rx rz : Int) : o.CanStamp entities rx rz := by
    refine Overlay.canStamp_of_build hbuild (by rw [hanchors]; decide) (fun slot c hc => ?_)
      entities rx rz
    rw [hanchors]
    cases slot with
    | plot | straight | turned =>
      cases hc
      decide
    | crossing => cases hc
  obtain ⟨columns, hcolumns⟩ := hcolumns
  rw [not_overflows_generate_iff hcell ho hb, not_overflows_populate_iff hcell ho hb]
  exact ⟨⟨⟨_, rfl⟩, columns, hcolumns, fun c _ =>
      ⟨small_canFill o c.kind, fun _ => hstamp false c.rx c.rz⟩⟩,
    fun _ => ⟨columns, hcolumns, fun c _ _ => hstamp true c.rx c.rz⟩⟩

/-- Neither pass overflows over a small buffer. -/
theorem Area.small_runs {o : Overlay} {reports : Array Notice}
    (hbuild : (Overlay.build .small .small .default .small).exec = (.ok o, reports)) :
    ¬ Overflows ({ small with overlay := o }.generate.exec .small).1 ∧
      ¬ Overflows ({ small with overlay := o }.populate.exec .small).1 :=
  small_runs_of hbuild Buffer.small_fresh ⟨_, Geometry.small_columns.choose_spec.1⟩

end PlotGrid
