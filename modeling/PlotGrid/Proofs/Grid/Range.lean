import PlotGrid.Proofs.Grid.Limits
import PlotGrid.Proofs.Grid.Starts

/-!
# Starts and the range of generation

The checks keep all surfaces between the floor and the ceiling of generation. The building floor is
raised to the floor of generation if it is lower, but nothing keeps it below the ceiling. So a
fragment starts above the ceiling iff it starts on a building floor that is above the ceiling.

- `Anchors.PlotOnBuildFloor`, `Anchors.RoadOnBuildFloor`: the fragments that start on the building
  floor.
- `Anchors.minGen_le_of_mem`: no fragment starts below the floor of generation.
- `AreaConfig.maxGen_lt_minBuild_iff`: when the building floor is above the ceiling.
- `fragments_start_above_ceiling_iff`: when fragments start above the ceiling.
-/

namespace PlotGrid

namespace Anchors

/-- The plot template starts on the building floor. -/
structure PlotOnBuildFloor (g : Geometry) (s : SchematicSettings)
    (plotHeight roadHeight : Option Int) : Prop where
  settings : s.pasteOnTop = false
  plot : ∃ n, plotHeight = some n ∧ n ≠ g.fullHeight
  road : ¬ RoadOnFloor g s roadHeight

/-- Road fragments start on the building floor. -/
structure RoadOnBuildFloor (g : Geometry) (s : SchematicSettings) (roadHeight : Option Int) :
    Prop where
  settings : s.pasteRoadOnTop = false
  road : ∃ n, roadHeight = some n ∧ n ≠ g.fullHeight

variable {g : Geometry} {s : SchematicSettings} {plotHeight roadHeight : Option Int} {a : Anchors}

theorem roadSurface_le (h : g.Leveled) : roadSurface g s ≤ g.maxGen := by
  obtain ⟨hroad, -, hwall, -⟩ := h
  unfold roadSurface
  split <;> omega

/-- A plot template starts on the building floor or at a height that was checked. -/
theorem plotLevel_cases (h : g.Leveled) (ha : compute g s plotHeight roadHeight = .ok a) :
    PlotOnBuildFloor g s plotHeight roadHeight ∧ a.plotLevel = g.minBuild ∨
      ¬ PlotOnBuildFloor g s plotHeight roadHeight ∧ a.plotLevel ≤ g.maxGen := by
  have hfloor : g.minGen ≤ g.maxGen := Int.le_trans h.plot.1 h.plot.2
  by_cases hbuild : PlotOnBuildFloor g s plotHeight roadHeight
  · obtain ⟨htop, ⟨n, rfl, hfull⟩, hroad⟩ := hbuild
    exact .inl ⟨⟨htop, ⟨n, rfl, hfull⟩, hroad⟩, plotLevel_of_onFloor ha hfull htop hroad⟩
  · refine .inr ⟨hbuild, ?_⟩
    cases plotHeight with
    | none =>
      rw [(starts_of_compute ha).1]
      exact h.plot.2
    | some n =>
      obtain ⟨onFloor, hon, hlevel⟩ := plotLevel_of_compute ha
      rw [hlevel, plotStart]
      split
      · exact hfloor
      · rename_i hfull
        split
        · exact h.plot.2
        · -- what starts on the building floor was left out
          rename_i hlow
          obtain ⟨htop, hroad⟩ := not_or.mp hlow
          exact absurd ⟨Bool.eq_false_iff.mpr htop, ⟨n, rfl, hfull⟩, mt hon.mpr hroad⟩ hbuild

/-- Road fragments start on the building floor or at a height that was checked. -/
theorem roadLevel_cases (h : g.Leveled) (ha : compute g s plotHeight roadHeight = .ok a) :
    RoadOnBuildFloor g s roadHeight ∧ a.roadLevel = g.minBuild ∨
      ¬ RoadOnBuildFloor g s roadHeight ∧ a.roadLevel ≤ g.maxGen := by
  have hfloor : g.minGen ≤ g.maxGen := Int.le_trans h.plot.1 h.plot.2
  cases roadHeight with
  | none =>
    refine .inr ⟨?_, ?_⟩
    · rintro ⟨-, n, hnone, -⟩
      exact Option.some_ne_none n hnone.symm
    · rw [(starts_of_compute ha).2.1]
      exact roadSurface_le h
  | some n =>
    rw [roadLevel_of_compute ha, roadStart]
    by_cases hfull : n = g.fullHeight
    · rw [if_pos hfull]
      refine .inr ⟨?_, hfloor⟩
      rintro ⟨-, n', hn, hne⟩
      exact hne (Option.some.inj hn ▸ hfull)
    · rw [if_neg hfull]
      cases htop : s.pasteRoadOnTop with
      | false => exact .inl ⟨⟨htop, n, rfl, hfull⟩, rfl⟩
      | true => exact .inr ⟨fun hbuild => Bool.noConfusion (htop.symm.trans hbuild.settings),
          roadSurface_le h⟩

/-- No fragment starts below the floor of generation. -/
theorem minGen_le_of_mem (h : g.Leveled) (ha : compute g s plotHeight roadHeight = .ok a) {y : Int}
    (hy : y ∈ a.levels plotHeight roadHeight) : g.minGen ≤ y := by
  rcases mem_levels_iff.mp hy with ⟨hplot, rfl⟩ | ⟨hroad, rfl⟩
  · obtain ⟨n, rfl⟩ := Option.isSome_iff_exists.mp hplot
    obtain ⟨onFloor, -, hlevel⟩ := plotLevel_of_compute ha
    rw [hlevel]
    exact (plotStart_mem h g.fullHeight n onFloor).1
  · obtain ⟨n, rfl⟩ := Option.isSome_iff_exists.mp hroad
    rw [roadLevel_of_compute ha]
    exact (roadStart_mem h g.fullHeight n).1

end Anchors

/-- When the building floor is above the ceiling of generation. -/
theorem AreaConfig.maxGen_lt_minBuild_iff {cfg : AreaConfig} {worldMin worldMax : Int}
    {g : Geometry} (h : cfg.geometry worldMin worldMax = .ok (.ok g)) :
    g.maxGen < g.minBuild ↔
      cfg.ceiling worldMax < cfg.minBuildHeight.getD (cfg.floor worldMin + 1) := by
  have hleveled := leveled_of_geometry h
  have hfloor : g.minGen ≤ g.maxGen := Int.le_trans hleveled.plot.1 hleveled.plot.2
  obtain ⟨-, -, rfl⟩ := geometry_eq_ok h
  simp only [resolved] at hfloor ⊢
  omega

/-- **A fragment starts above the ceiling iff it starts on a building floor above the ceiling.** For
dimensions that pass the checks, the lowest start is that of a fragment that is present, and all of
them are at the floor of generation or higher. A fragment starts above the ceiling iff it starts on
the building floor, and that is above the ceiling: the height that the configuration gives for it,
or one above the floor of generation. -/
theorem fragments_start_above_ceiling_iff {cfg : AreaConfig} {worldMin worldMax : Int}
    {g : Geometry} {s : SchematicSettings} {plotHeight roadHeight : Option Int}
    (h : cfg.geometry worldMin worldMax = .ok (.ok g))
    (hpresent : plotHeight.isSome ∨ roadHeight.isSome)
    (hrun : Anchors.compute g s plotHeight roadHeight ≠ .error .overflow) :
    ∃ a, Anchors.compute g s plotHeight roadHeight = .ok a ∧
      (a.levels plotHeight roadHeight).min? = some a.schemY ∧
      (∀ y ∈ a.levels plotHeight roadHeight, g.minGen ≤ y) ∧
      (g.maxGen < a.plotLevel ↔
        Anchors.PlotOnBuildFloor g s plotHeight roadHeight ∧ g.maxGen < g.minBuild) ∧
      (g.maxGen < a.roadLevel ↔
        Anchors.RoadOnBuildFloor g s roadHeight ∧ g.maxGen < g.minBuild) ∧
      (g.maxGen < g.minBuild ↔
        cfg.ceiling worldMax < cfg.minBuildHeight.getD (cfg.floor worldMin + 1)) := by
  have hleveled := AreaConfig.leveled_of_geometry h
  obtain ⟨a, ha⟩ := Anchors.onlyOverflow_compute.exists_eq_ok hrun
  refine ⟨a, ha, (Anchors.starts_of_compute ha).2.2 hpresent,
    fun y hy => Anchors.minGen_le_of_mem hleveled ha hy, ?_, ?_,
    AreaConfig.maxGen_lt_minBuild_iff h⟩
  · rcases Anchors.plotLevel_cases hleveled ha with ⟨hbuild, hlevel⟩ | ⟨hbuild, hlevel⟩
    · rw [hlevel, and_iff_right hbuild]
    · exact iff_of_false (Int.not_lt.mpr hlevel) fun hboth => hbuild hboth.1
  · rcases Anchors.roadLevel_cases hleveled ha with ⟨hbuild, hlevel⟩ | ⟨hbuild, hlevel⟩
    · rw [hlevel, and_iff_right hbuild]
    · exact iff_of_false (Int.not_lt.mpr hlevel) fun hboth => hbuild hboth.1

/-- A small cell whose building floor is above its ceiling. -/
def AreaConfig.builtAbove : AreaConfig :=
  { AreaConfig.small with minBuildHeight := some 20 }

/-- On a building floor above the ceiling a plot template starts above the ceiling. -/
theorem template_starts_above_ceiling : ∃ g a,
    AreaConfig.builtAbove.geometry 0 15 = .ok (.ok g) ∧
      Anchors.compute g .onFloor (some 1) none = .ok a ∧ g.maxGen < a.plotLevel := by
  have hgeometry : AreaConfig.builtAbove.geometry 0 15 =
      .ok (.ok (AreaConfig.builtAbove.resolved 0 15)) := rfl
  have hcompute : Anchors.compute (AreaConfig.builtAbove.resolved 0 15) .onFloor (some 1) none =
      .ok ⟨20, 0, -16⟩ := rfl
  obtain ⟨a, ha, -, -, hplot, -, hbuild⟩ := fragments_start_above_ceiling_iff hgeometry (.inl rfl)
    fun h => nomatch hcompute.symm.trans h
  have hfloor : Anchors.PlotOnBuildFloor (AreaConfig.builtAbove.resolved 0 15) .onFloor (some 1)
      none :=
    ⟨rfl, ⟨1, rfl, by decide⟩, fun ⟨_, hnone, _⟩ => Option.some_ne_none _ hnone.symm⟩
  exact ⟨_, a, hgeometry, ha, hplot.mpr ⟨hfloor, hbuild.mpr (by decide)⟩⟩

/-- A single height, at which everything has its surface. -/
def AreaConfig.single : AreaConfig :=
  { AreaConfig.small with
    roadHeight := 3
    wallHeight := 3
    minGenHeight := some 3
    maxGenHeight := some 3 }

/-- Fragments start above the ceiling where the building floor is given as too high, and in an area
of a single height, where it is one above by default. -/
theorem starts_above_ceiling :
    (∃ g a, AreaConfig.builtAbove.geometry 0 15 = .ok (.ok g) ∧
      Anchors.compute g .onFloor (some 1) none = .ok a ∧
      ¬ a.schemY ≤ g.maxGen ∧ ¬ a.plotLevel ≤ g.maxGen) ∧
    (∃ g a, AreaConfig.builtAbove.geometry 0 15 = .ok (.ok g) ∧
      Anchors.compute g .onFloor none (some 1) = .ok a ∧
      ¬ a.schemY ≤ g.maxGen ∧ ¬ a.roadLevel ≤ g.maxGen) ∧
    ∃ g a, AreaConfig.single.geometry 0 15 = .ok (.ok g) ∧
      Anchors.compute g .onFloor (some 2) none = .ok a ∧
      ¬ a.schemY ≤ g.maxGen ∧ ¬ a.plotLevel ≤ g.maxGen :=
  ⟨⟨_, ⟨20, 0, -16⟩, rfl, rfl, by decide, by decide⟩,
    ⟨_, ⟨20, -17, 0⟩, rfl, rfl, by decide, by decide⟩,
    ⟨_, ⟨4, 0, -1⟩, rfl, rfl, by decide, by decide⟩⟩

end PlotGrid
