import PlotGrid.Proofs.Area.Accepted
import PlotGrid.Proofs.Overflow

/-!
# Where dimensions overflow

The checks of dimensions add before they compare: the height above the floor is computed before it
is known to be needed, and the edge of a cell before it is known not to be too large. Both sums can
leave the range of coordinates. Dimensions that pass the checks have a cell whose sums are all
small, but their heights may be further apart than a coordinate can tell.

- `AreaConfig.geometry_eq_error_iff`: when the checks overflow.
- `AreaConfig.InRange`: the numbers of a configuration are coordinates.
- `Geometry.Leveled`: what the checks say about heights.
- `Anchors.exists_compute_eq`: anchors can be computed if no two starts are too far apart.
- `dimensions_overflow_iff`: which dimensions overflow while they are checked, and which of those
  that pass overflow when they are used.
-/

namespace PlotGrid

namespace AreaConfig

variable {cfg : AreaConfig} {worldMin worldMax : Int} {g : Geometry} {fault : Fault}

/-- The generation floor of an area in a world with this bottom. -/
def floor (cfg : AreaConfig) (worldMin : Int) : Int :=
  cfg.minGenHeight.getD worldMin

/-- The generation ceiling of an area in a world with this top. -/
def ceiling (cfg : AreaConfig) (worldMax : Int) : Int :=
  cfg.maxGenHeight.getD worldMax

/-- The checks stop at one of the two sums that they make, or not at all. -/
theorem geometry_eq_error_iff : cfg.geometry worldMin worldMax = .error fault ↔
    fault = .overflow ∧ cfg.floor worldMin ≤ cfg.ceiling worldMax ∧
      (¬ Coord.InRange (cfg.floor worldMin + 1) ∨
        1 ≤ cfg.plotWidth ∧ 0 ≤ cfg.roadWidth ∧
          ¬ Coord.InRange (cfg.plotWidth + cfg.roadWidth)) := by
  rw [geometry]
  constructor
  · intro h
    split at h
    · cases h
    · rename_i hfloor
      suffices fault = .overflow ∧ _ from ⟨this.1, Int.not_lt.mp hfloor, this.2⟩
      rcases Checked.bind_eq_error_iff.mp h with habove | ⟨aboveFloor, -, h⟩
      · obtain ⟨hrange, rfl⟩ := Coord.narrow_eq_error_iff.mp habove
        exact ⟨rfl, .inl hrange⟩
      · split at h
        · cases h
        · rename_i hplot
          split at h
          · cases h
          · rename_i hroad
            rcases Checked.bind_eq_error_iff.mp h with hsize | ⟨size, -, h⟩
            · obtain ⟨hrange, rfl⟩ := Coord.narrow_eq_error_iff.mp hsize
              exact ⟨rfl, .inr ⟨Int.not_lt.mp hplot, Int.not_lt.mp hroad, hrange⟩⟩
            · -- nothing is added after that
              split at h
              · cases h
              · split at h <;> cases h
  · rintro ⟨rfl, hfloor, h⟩
    have hfloor : ¬ cfg.minGenHeight.getD worldMin > cfg.maxGenHeight.getD worldMax :=
      Int.not_lt.mpr hfloor
    rw [if_neg hfloor]
    refine Checked.bind_eq_error_iff.mpr ?_
    by_cases habove : Coord.InRange (cfg.floor worldMin + 1)
    · obtain ⟨hplot, hroad, hwide⟩ := h.resolve_left fun hnot => hnot habove
      refine .inr ⟨_, Coord.narrow_of_inRange habove, ?_⟩
      rw [if_neg (Int.not_lt.mpr hplot), if_neg (Int.not_lt.mpr hroad)]
      exact Checked.bind_eq_error_iff.mpr (.inl (Coord.narrow_eq_error_iff.mpr ⟨hwide, rfl⟩))
    · exact .inl (Coord.narrow_eq_error_iff.mpr ⟨habove, rfl⟩)

end AreaConfig

/-! ## Dimensions that pass -/

/-- The surfaces are between the floor and the ceiling, and building starts at the floor or
higher. -/
structure Geometry.Leveled (g : Geometry) : Prop where
  road : g.minGen ≤ g.roadHeight ∧ g.roadHeight ≤ g.maxGen
  plot : g.minGen ≤ g.plotHeight ∧ g.plotHeight ≤ g.maxGen
  wall : g.minGen ≤ g.wallHeight ∧ g.wallHeight ≤ g.maxGen
  build : g.minGen ≤ g.minBuild

namespace AreaConfig

variable {cfg : AreaConfig} {worldMin worldMax : Int} {g : Geometry} {fault : Fault}

/-- The numbers of a configuration are coordinates. -/
structure InRange (cfg : AreaConfig) : Prop where
  plotWidth : Coord.InRange cfg.plotWidth
  roadWidth : Coord.InRange cfg.roadWidth
  roadHeight : Coord.InRange cfg.roadHeight
  plotHeight : Coord.InRange cfg.plotHeight
  wallHeight : Coord.InRange cfg.wallHeight
  minGenHeight : ∀ y, cfg.minGenHeight = some y → Coord.InRange y
  maxGenHeight : ∀ y, cfg.maxGenHeight = some y → Coord.InRange y
  minBuildHeight : ∀ y, cfg.minBuildHeight = some y → Coord.InRange y
  maxBuildHeight : ∀ y, cfg.maxBuildHeight = some y → Coord.InRange y
  roadOffsetX : Coord.InRange cfg.roadOffsetX
  roadOffsetZ : Coord.InRange cfg.roadOffsetZ

/-- Surfaces that pass the check are between the floor and the ceiling. -/
theorem surfaces_of_surfaceOutside? {floor ceiling : Int}
    (h : cfg.surfaceOutside? floor ceiling = none) :
    (floor ≤ cfg.roadHeight ∧ cfg.roadHeight ≤ ceiling) ∧
      (floor ≤ cfg.plotHeight ∧ cfg.plotHeight ≤ ceiling) ∧
        floor ≤ cfg.wallHeight ∧ cfg.wallHeight ≤ ceiling := by
  have hinside (e : String × Int) (he : e ∈ [("road_height", cfg.roadHeight),
      ("plot_height", cfg.plotHeight), ("wall_height", cfg.wallHeight)]) :
      floor ≤ e.2 ∧ e.2 ≤ ceiling := by
    have hpasses := List.findSome?_eq_none_iff.mp h e he
    dsimp only at hpasses
    split at hpasses
    · cases hpasses
    · rename_i hbounds
      omega
  exact ⟨hinside ("road_height", _) (by simp), hinside ("plot_height", _) (by simp),
    hinside ("wall_height", _) (by simp)⟩

/-- The dimensions of a configuration between a floor and a ceiling. -/
def resolved (cfg : AreaConfig) (floor ceiling : Int) : Geometry where
  plotWidth := cfg.plotWidth
  roadWidth := cfg.roadWidth
  roadHeight := cfg.roadHeight
  plotHeight := cfg.plotHeight
  wallHeight := cfg.wallHeight
  minGen := floor
  maxGen := ceiling
  minBuild := max (cfg.minBuildHeight.getD (floor + 1)) floor
  maxBuild := min (cfg.maxBuildHeight.getD ceiling) ceiling
  plotBedrock := cfg.plotBedrock
  roadOffsetX := cfg.roadOffsetX
  roadOffsetZ := cfg.roadOffsetZ

/-- Dimensions that pass the checks are those of the configuration. -/
theorem geometry_eq_ok (h : cfg.geometry worldMin worldMax = .ok (.ok g)) :
    Coord.InRange (cfg.floor worldMin + 1) ∧
      cfg.surfaceOutside? (cfg.floor worldMin) (cfg.ceiling worldMax) = none ∧
      g = cfg.resolved (cfg.floor worldMin) (cfg.ceiling worldMax) := by
  rw [geometry] at h
  split at h
  · cases Except.ok.inj h
  · obtain ⟨aboveFloor, habove, h⟩ := Checked.bind_eq_ok_iff.mp h
    obtain ⟨hrange, rfl⟩ := Coord.add_eq_ok_iff.mp habove
    split at h
    · cases Except.ok.inj h
    · split at h
      · cases Except.ok.inj h
      · obtain ⟨size, -, h⟩ := Checked.bind_eq_ok_iff.mp h
        split at h
        · cases Except.ok.inj h
        · split at h
          · cases Except.ok.inj h
          · rename_i hsurface
            exact ⟨hrange, hsurface, (Except.ok.inj (Except.ok.inj h)).symm⟩

theorem leveled_of_geometry (h : cfg.geometry worldMin worldMax = .ok (.ok g)) : g.Leveled := by
  obtain ⟨-, hsurface, rfl⟩ := geometry_eq_ok h
  obtain ⟨hroad, hplot, hwall⟩ := surfaces_of_surfaceOutside? hsurface
  exact ⟨hroad, hplot, hwall, Int.le_max_right _ _⟩

theorem getD_inRange {height : Option Int} {default : Int} (hdefault : Coord.InRange default)
    (hheight : ∀ y, height = some y → Coord.InRange y) : Coord.InRange (height.getD default) := by
  cases height with
  | none => exact hdefault
  | some y => exact hheight y rfl

theorem InRange.floor (h : cfg.InRange) (hmin : Coord.InRange worldMin) :
    Coord.InRange (cfg.floor worldMin) :=
  getD_inRange hmin h.minGenHeight

theorem InRange.ceiling (h : cfg.InRange) (hmax : Coord.InRange worldMax) :
    Coord.InRange (cfg.ceiling worldMax) :=
  getD_inRange hmax h.maxGenHeight

end AreaConfig

/-- The heights of an area that was made from a configuration pass the checks. -/
theorem Area.Accepted.leveled {a : Area} (h : a.Accepted) : a.geometry.Leveled := by
  obtain ⟨reg, settings, cfg, world, notices, h⟩ := h
  obtain ⟨g, blocks, biome, overlay, hresolve, -, rfl⟩ := ofConfig_eq_ok h
  exact AreaConfig.leveled_of_geometry (resolve_eq_ok hresolve).1

namespace Geometry

variable {g : Geometry}

/-- The sums over the widths of a cell that passes the checks are small. -/
theorem Sound.widths (h : g.Sound) :
    g.size = .ok (g.plotWidth + g.roadWidth) ∧ Coord.InRange g.pathLower ∧
      ∃ upper, g.pathUpper = .ok upper := by
  obtain ⟨hplot, hroad, hsize, -⟩ := h
  have hgreatest : greatestSize = 32767 := rfl
  have hedge : g.size = .ok (g.plotWidth + g.roadWidth) :=
    Coord.narrow_of_inRange (Coord.inRange_iff.mpr ⟨by omega, by omega⟩)
  obtain ⟨hshift, hlead, -, hhalves⟩ := shift_spec hroad
  refine ⟨hedge, ?_, ?_⟩
  · rw [pathLower_eq hroad, Coord.inRange_iff]
    omega
  · -- without a road there is no wall in the cell
    by_cases hnone : g.roadWidth = 0
    · rw [pathUpper, if_pos hnone, hedge]
      exact ⟨_, Coord.narrow_of_inRange (Coord.inRange_iff.mpr ⟨by omega, by omega⟩)⟩
    · exact ⟨_, Paved.pathUpper_eq_ok ⟨hplot, by omega, hsize⟩⟩

/-- The number of heights is a coordinate iff floor and ceiling are not too far apart. -/
theorem genHeight_eq_ok_iff (h : g.minGen ≤ g.maxGen) {n : Int} :
    g.genHeight = .ok n ↔ g.maxGen - g.minGen < Coord.greatest ∧ n = g.maxGen - g.minGen + 1 := by
  unfold Coord.greatest
  rw [genHeight, Checked.bind_eq_ok_iff]
  constructor
  · rintro ⟨between, hbetween, hn⟩
    obtain ⟨-, rfl⟩ := Coord.sub_eq_ok_iff.mp hbetween
    obtain ⟨hrange, rfl⟩ := Coord.add_eq_ok_iff.mp hn
    have hrange := (Coord.inRange_iff.mp hrange).2
    exact ⟨by omega, rfl⟩
  · rintro ⟨hspan, rfl⟩
    have hbetween : Coord.InRange (g.maxGen - g.minGen) :=
      Coord.inRange_iff.mpr ⟨by omega, by omega⟩
    exact ⟨_, Coord.narrow_of_inRange hbetween,
      Coord.narrow_of_inRange (Coord.inRange_iff.mpr ⟨by omega, by omega⟩)⟩

/-- The height of the highest possible start of a fragment. -/
def highest (g : Geometry) : Int :=
  max g.maxGen g.minBuild

end Geometry

/-! ## Anchors -/

namespace Anchors

variable {g : Geometry} {s : SchematicSettings}

/-- A height of a fragment, if there is one, is a coordinate and not negative. -/
def Authored (height : Option Int) : Prop :=
  ∀ n, height = some n → 0 ≤ n ∧ n ≤ Coord.greatest

theorem roadSurface_mem (h : g.Leveled) :
    g.minGen ≤ roadSurface g s ∧ roadSurface g s ≤ g.highest := by
  obtain ⟨hroad, hplot, hwall, hbuild⟩ := h
  unfold roadSurface Geometry.highest
  split <;> omega

theorem roadStart_mem (h : g.Leveled) (full n : Int) :
    g.minGen ≤ (roadStart g s full n).1 ∧ (roadStart g s full n).1 ≤ g.highest := by
  have hsurface := roadSurface_mem (s := s) h
  obtain ⟨hroad, hplot, hwall, hbuild⟩ := h
  unfold Geometry.highest at hsurface ⊢
  unfold roadStart
  split
  · dsimp only
    omega
  · split
    · dsimp only
      omega
    · exact hsurface

theorem plotStart_mem (h : g.Leveled) (full n : Int) (roadOnFloor : Bool) :
    g.minGen ≤ plotStart g s full n roadOnFloor ∧
      plotStart g s full n roadOnFloor ≤ g.highest := by
  obtain ⟨hroad, hplot, hwall, hbuild⟩ := h
  unfold plotStart Geometry.highest
  split
  · omega
  · split <;> omega

/-- Two heights that are not too far apart have a difference. -/
theorem sub_eq_ok_of_mem {a b lo hi : Int} (ha : lo ≤ a ∧ a ≤ hi) (hb : lo ≤ b ∧ b ≤ hi)
    (hspan : hi - lo ≤ Coord.greatest) : Coord.sub a b = .ok (a - b) := by
  unfold Coord.greatest at hspan
  exact Coord.narrow_of_inRange (Coord.inRange_iff.mpr ⟨by omega, by omega⟩)

/-- **Anchors can be computed if no two starts are too far apart.** -/
theorem exists_compute_eq (h : g.Leveled) {full : Int} (hfull : g.genHeight = .ok full)
    (hspan : g.highest - g.minGen ≤ Coord.greatest) (s : SchematicSettings)
    (plotHeight roadHeight : Option Int) :
    ∃ a, compute g s plotHeight roadHeight = .ok a := by
  have hplot (roadOnFloor : Bool) :
      g.minGen ≤ (plotHeight.map fun n => plotStart g s full n roadOnFloor).getD g.plotHeight ∧
        (plotHeight.map fun n => plotStart g s full n roadOnFloor).getD g.plotHeight ≤
          g.highest := by
    cases plotHeight with
    | none => exact ⟨h.plot.1, Int.le_trans h.plot.2 (Int.le_max_left _ _)⟩
    | some n => exact plotStart_mem h full n roadOnFloor
  have hroad : g.minGen ≤
      ((roadHeight.map (roadStart g s full)).map (·.1)).getD (roadSurface g s) ∧
        ((roadHeight.map (roadStart g s full)).map (·.1)).getD (roadSurface g s) ≤ g.highest := by
    cases roadHeight with
    | none => exact roadSurface_mem h
    | some n => exact roadStart_mem h full n
  refine ⟨_, Checked.bind_eq_ok_iff.mpr ⟨full, hfull, Checked.bind_eq_ok_iff.mpr
    ⟨_, sub_eq_ok_of_mem (hplot _) ?low hspan, Checked.bind_eq_ok_iff.mpr
      ⟨_, sub_eq_ok_of_mem hroad ?low hspan, rfl⟩⟩⟩⟩
  -- the lowest start is one of the starts, or the lower one of the surfaces
  cases plotHeight with
  | none =>
    cases roadHeight with
    | none =>
      have hboth := And.intro (hplot false) hroad
      simp only [Option.map_none, Option.getD_none] at hboth ⊢
      omega
    | some r => exact roadStart_mem h full r
  | some p =>
    cases roadHeight with
    | none => exact plotStart_mem h full p _
    | some r =>
      have hboth := And.intro (hplot (roadStart g s full r).2) hroad
      simp only [Option.map_some, Option.getD_some, Option.any_some] at hboth ⊢
      omega

/-- A plot template of full height starts on the floor of generation and a road on the floor of
building, so both floors have a difference if there are anchors for them. -/
theorem span_of_compute (h : g.Leveled) {full : Int} (hfull : g.genHeight = .ok full)
    (hne : full ≠ 0) (hroad : s.pasteRoadOnTop = false) {a : Anchors}
    (ha : compute g s (some full) (some 0) = .ok a) :
    g.minBuild - g.minGen ≤ Coord.greatest := by
  obtain ⟨full', hfull', ha⟩ := Checked.bind_eq_ok_iff.mp ha
  rw [hfull, Except.ok.injEq] at hfull'
  subst hfull'
  obtain ⟨plotY, -, ha⟩ := Checked.bind_eq_ok_iff.mp ha
  obtain ⟨roadY, hroadY, -⟩ := Checked.bind_eq_ok_iff.mp ha
  have hplotStart (b : Bool) : plotStart g s full full b = g.minGen := if_pos rfl
  have hroadStart : roadStart g s full 0 = (g.minBuild, true) := by
    rw [roadStart, if_neg (Ne.symm hne), hroad]
    rfl
  have hrange := (Coord.sub_eq_ok_iff.mp hroadY).1
  simp only [Option.map_some, Option.getD_some, hroadStart, hplotStart] at hrange
  rw [Int.min_eq_left h.build] at hrange
  exact (Coord.inRange_iff.mp hrange).2

end Anchors

/-! ## The limits -/

/-- **Where dimensions overflow.** The checks overflow for an area of one height at the greatest
coordinate, and for a cell whose edge is no coordinate. What passes the checks has an edge and its
walls; it has a number of heights iff floor and ceiling are not too far apart, and anchors for all
settings and fragments iff the floor of building is not too far above them either. -/
theorem dimensions_overflow_iff {cfg : AreaConfig} {worldMin worldMax : Int} (hcfg : cfg.InRange)
    (hmin : Coord.InRange worldMin) (hmax : Coord.InRange worldMax) :
    (∀ fault, cfg.geometry worldMin worldMax = .error fault ↔ fault = .overflow ∧
      (cfg.floor worldMin = Coord.greatest ∧ cfg.ceiling worldMax = Coord.greatest ∨
        cfg.floor worldMin ≤ cfg.ceiling worldMax ∧ 1 ≤ cfg.plotWidth ∧ 0 ≤ cfg.roadWidth ∧
          Coord.greatest < cfg.plotWidth + cfg.roadWidth)) ∧
    ∀ g, cfg.geometry worldMin worldMax = .ok (.ok g) →
      (∃ size, g.size = .ok size) ∧ Coord.InRange g.pathLower ∧
      (∃ upper, g.pathUpper = .ok upper) ∧
      ((∃ n, g.genHeight = .ok n) ↔ g.maxGen - g.minGen < Coord.greatest) ∧
      ((∀ s plotHeight roadHeight, Anchors.Authored plotHeight → Anchors.Authored roadHeight →
          ∃ a, Anchors.compute g s plotHeight roadHeight = .ok a) ↔
        g.maxGen - g.minGen < Coord.greatest ∧ g.minBuild - g.minGen ≤ Coord.greatest) := by
  have hfloor := Coord.inRange_iff.mp (hcfg.floor hmin)
  have hceiling := Coord.inRange_iff.mp (hcfg.ceiling hmax)
  refine ⟨fun fault => ?_, fun g h => ?_⟩
  · have hplot := Coord.inRange_iff.mp hcfg.plotWidth
    have hroad := Coord.inRange_iff.mp hcfg.roadWidth
    rw [AreaConfig.geometry_eq_error_iff, Coord.inRange_iff, Coord.inRange_iff]
    refine and_congr_right fun _ => ?_
    unfold Coord.greatest
    omega
  · have hleveled := AreaConfig.leveled_of_geometry h
    obtain ⟨hsize, hlower, hupper⟩ := (AreaConfig.geometry_sound h).widths
    have hle : g.minGen ≤ g.maxGen := Int.le_trans hleveled.road.1 hleveled.road.2
    have hheights : (∃ n, g.genHeight = .ok n) ↔ g.maxGen - g.minGen < Coord.greatest := by
      constructor
      · rintro ⟨n, hn⟩
        exact ((Geometry.genHeight_eq_ok_iff hle).mp hn).1
      · intro hspan
        exact ⟨_, (Geometry.genHeight_eq_ok_iff hle).mpr ⟨hspan, rfl⟩⟩
    refine ⟨⟨_, hsize⟩, hlower, hupper, hheights, fun hall => ?_, fun hspan => ?_⟩
    · -- anchors without fragments need the number of heights, which is then a fragment's height
      obtain ⟨_, hnone⟩ := hall .default none none (fun _ hn => by cases hn) fun _ hn => by cases hn
      obtain ⟨full, hfull, -⟩ := Checked.bind_eq_ok_iff.mp hnone
      obtain ⟨hspan, heq⟩ := (Geometry.genHeight_eq_ok_iff hle).mp hfull
      refine ⟨hspan, ?_⟩
      have hplot : Anchors.Authored (some full) := by
        rintro n ⟨⟩
        omega
      have hroad : Anchors.Authored (some 0) := by
        rintro n ⟨⟩
        decide
      obtain ⟨_, ha⟩ := hall { SchematicSettings.default with pasteRoadOnTop := false }
        (some full) (some 0) hplot hroad
      exact Anchors.span_of_compute hleveled hfull (by omega) rfl ha
    · intro s plotHeight roadHeight _ _
      obtain ⟨full, hfull⟩ := hheights.mpr hspan.1
      refine Anchors.exists_compute_eq hleveled hfull ?_ s plotHeight roadHeight
      unfold Geometry.highest
      omega

theorem AreaConfig.plain_inRange (world : String) : (plain world).InRange where
  plotWidth := show Coord.InRange 42 by decide
  roadWidth := show Coord.InRange 7 by decide
  roadHeight := show Coord.InRange 62 by decide
  plotHeight := show Coord.InRange 62 by decide
  wallHeight := show Coord.InRange 62 by decide
  minGenHeight := fun _ h => by cases h
  maxGenHeight := fun _ h => by cases h
  minBuildHeight := fun _ h => by cases h
  maxBuildHeight := fun _ h => by cases h
  roadOffsetX := show Coord.InRange 0 by decide
  roadOffsetZ := show Coord.InRange 0 by decide

/-- An area with every field left out is safe in a world of the usual heights. -/
theorem dimensions_of_plain_are_safe : ∃ g,
    (AreaConfig.plain "plots").geometry (-64) 319 = .ok (.ok g) ∧
    (∃ n, g.genHeight = .ok n) ∧
    ∀ s plotHeight roadHeight, Anchors.Authored plotHeight → Anchors.Authored roadHeight →
      ∃ a, Anchors.compute g s plotHeight roadHeight = .ok a := by
  obtain ⟨-, hpass⟩ := dimensions_overflow_iff (AreaConfig.plain_inRange "plots")
    (show Coord.InRange (-64) by decide) (show Coord.InRange 319 by decide)
  have hgeometry : (AreaConfig.plain "plots").geometry (-64) 319 =
      .ok (.ok ((AreaConfig.plain "plots").resolved (-64) 319)) := rfl
  obtain ⟨-, -, -, hheights, hanchors⟩ := hpass _ hgeometry
  exact ⟨_, hgeometry, hheights.mpr (by decide), hanchors.mpr (by decide)⟩

/-- A wide cell, and an area of one height at the greatest coordinate, overflow while they are
checked. An area of all heights passes, but overflows when its heights are counted, and one whose
floor of building is far above its own passes, but has no anchors for some fragments. -/
theorem checked_sums_overflow :
    { AreaConfig.plain "plots" with plotWidth := 2147483647, roadWidth := 1 }.geometry (-64) 319 =
        .error .overflow ∧
      { AreaConfig.plain "plots" with minGenHeight := some 2147483647 }.geometry 0 2147483647 =
        .error .overflow ∧
      (∃ g, (AreaConfig.plain "plots").geometry (-2147483648) 2147483647 = .ok (.ok g) ∧
        g.genHeight = .error .overflow) ∧
      ∃ g, { AreaConfig.plain "plots" with minBuildHeight := some 2147483647 }.geometry (-64) 319 =
          .ok (.ok g) ∧
        Anchors.compute g { SchematicSettings.default with pasteRoadOnTop := false } (some 384)
          (some 1) = .error .overflow :=
  ⟨rfl, rfl, ⟨_, rfl, rfl⟩, ⟨_, rfl, rfl⟩⟩

end PlotGrid
