import PlotGrid.Grid.Anchors
import PlotGrid.Proofs.Grid.Layout
import PlotGrid.Proofs.Overflow

/-!
# Where fragments start

Anchors count from the lowest fragment, so each of them depends on all fragments that are present.
Counted from the zero of the world instead, road fragments start at a height of their own, and the
height at which a plot template starts depends on them in a single case: a road fragment on a floor
lifts a template from the building floor to the plot's surface.

- `Anchors.plotLevel`, `Anchors.roadLevel`: the heights in the world.
- `Anchors.levels`: those of the fragments that are present.
- `Anchors.LiftsPlot`: the road fragments lift the plot template.
- `Anchors.plotLevel_congr`, `Anchors.roadLevel_congr`: what the heights do not depend on.
- `anchors_count_from_lowest`: all of it for anchors that do not overflow.
-/

namespace PlotGrid

namespace Geometry

/-- The height of a fragment that reaches from the floor to the ceiling. -/
def fullHeight (g : Geometry) : Int :=
  g.maxGen - g.minGen + 1

theorem eq_fullHeight {g : Geometry} {full : Int} (h : g.genHeight = .ok full) :
    full = g.fullHeight := by
  obtain ⟨between, hbetween, h⟩ := Checked.bind_eq_ok_iff.mp h
  obtain ⟨-, rfl⟩ := Coord.sub_eq_ok_iff.mp hbetween
  exact (Coord.add_eq_ok_iff.mp h).2

theorem onlyOverflow_genHeight (g : Geometry) : OnlyOverflow g.genHeight :=
  (OnlyFaults.sub _ _).bind fun _ _ => .add _ _

end Geometry

namespace Anchors

/-- The height in the world at which the plot template starts. -/
def plotLevel (a : Anchors) : Int :=
  a.schemY + a.plotY

/-- The height in the world at which road fragments start. -/
def roadLevel (a : Anchors) : Int :=
  a.schemY + a.roadY

/-- The heights in the world at which the fragments that are present start. -/
def levels (a : Anchors) (plotHeight roadHeight : Option Int) : List Int :=
  (plotHeight.map fun _ => a.plotLevel).toList ++ (roadHeight.map fun _ => a.roadLevel).toList

/-- A road fragment, if there is one, would lie on a floor. -/
def RoadOnFloor (g : Geometry) (s : SchematicSettings) (roadHeight : Option Int) : Prop :=
  ∃ n, roadHeight = some n ∧ (n = g.fullHeight ∨ s.pasteRoadOnTop = false)

/-- A plot template that would start on the building floor starts at the plot's surface, because a
road fragment would lie on a floor. -/
structure LiftsPlot (g : Geometry) (s : SchematicSettings) (plotHeight roadHeight : Option Int) :
    Prop where
  settings : s.pasteOnTop = false
  plot : ∃ n, plotHeight = some n ∧ n ≠ g.fullHeight
  road : RoadOnFloor g s roadHeight

variable {g : Geometry} {s : SchematicSettings} {n : Int}
  {plotHeight plotHeight' roadHeight roadHeight' : Option Int} {a a' : Anchors}

theorem mem_levels_iff {y : Int} : y ∈ a.levels plotHeight roadHeight ↔
    plotHeight.isSome ∧ y = a.plotLevel ∨ roadHeight.isSome ∧ y = a.roadLevel := by
  unfold levels
  cases plotHeight <;> cases roadHeight <;> simp

theorem onlyOverflow_compute : OnlyOverflow (compute g s plotHeight roadHeight) :=
  g.onlyOverflow_genHeight.bind fun _ _ => (OnlyFaults.sub _ _).bind fun _ _ =>
    (OnlyFaults.sub _ _).bind fun _ _ => .ok _

theorem any_roadStart_iff :
    (roadHeight.map (roadStart g s g.fullHeight)).any (·.2) = true ↔
      RoadOnFloor g s roadHeight := by
  unfold RoadOnFloor
  cases roadHeight with
  | none => simp
  | some n =>
    simp only [Option.map_some, Option.any_some, Option.some.injEq, exists_eq_left']
    unfold roadStart
    split
    · simp_all
    · split <;> simp_all

/-! ## Single starts -/

/-- The starts that anchors count, and the lowest of those that are present. -/
theorem starts_of_compute (h : compute g s plotHeight roadHeight = .ok a) :
    a.plotLevel = (plotHeight.map fun n => plotStart g s g.fullHeight n
        ((roadHeight.map (roadStart g s g.fullHeight)).any (·.2))).getD g.plotHeight ∧
      a.roadLevel =
        ((roadHeight.map (roadStart g s g.fullHeight)).map (·.1)).getD (roadSurface g s) ∧
      (plotHeight.isSome ∨ roadHeight.isSome →
        (a.levels plotHeight roadHeight).min? = some a.schemY) := by
  obtain ⟨full, hfull, h⟩ := Checked.bind_eq_ok_iff.mp h
  obtain ⟨plotY, hplot, h⟩ := Checked.bind_eq_ok_iff.mp h
  obtain ⟨roadY, hroad, h⟩ := Checked.bind_eq_ok_iff.mp h
  obtain ⟨-, rfl⟩ := Coord.sub_eq_ok_iff.mp hplot
  obtain ⟨-, rfl⟩ := Coord.sub_eq_ok_iff.mp hroad
  rw [← Except.ok.inj h, Geometry.eq_fullHeight hfull]
  -- an offset is a start less the lowest one
  have hback (start low : Int) : low + (start - low) = start := by omega
  refine ⟨hback _ _, hback _ _, ?_⟩
  unfold levels plotLevel roadLevel
  rw [hback, hback]
  cases plotHeight <;> cases roadHeight <;> simp

/-- The start of the plot template. -/
theorem plotLevel_of_compute (h : compute g s (some n) roadHeight = .ok a) :
    ∃ roadOnFloor, (roadOnFloor = true ↔ RoadOnFloor g s roadHeight) ∧
      a.plotLevel = plotStart g s g.fullHeight n roadOnFloor :=
  ⟨_, any_roadStart_iff, (starts_of_compute h).1⟩

/-- The start of road fragments. -/
theorem roadLevel_of_compute (h : compute g s plotHeight (some n) = .ok a) :
    a.roadLevel = (roadStart g s g.fullHeight n).1 :=
  (starts_of_compute h).2.1

/-- **Road fragments start where they do without a plot template.** -/
theorem roadLevel_congr (h : compute g s plotHeight roadHeight = .ok a)
    (h' : compute g s plotHeight' roadHeight = .ok a') : a.roadLevel = a'.roadLevel :=
  (starts_of_compute h).2.1.trans (starts_of_compute h').2.1.symm

/-- **A plot template starts at the same height whatever the road fragments are**, if they lift it
in both cases or in neither. -/
theorem plotLevel_congr (h : compute g s plotHeight roadHeight = .ok a)
    (h' : compute g s plotHeight roadHeight' = .ok a')
    (hlift : LiftsPlot g s plotHeight roadHeight ↔ LiftsPlot g s plotHeight roadHeight') :
    a.plotLevel = a'.plotLevel := by
  cases plotHeight with
  | none => exact (starts_of_compute h).1.trans (starts_of_compute h').1.symm
  | some n =>
    obtain ⟨onFloor, hroad, hlevel⟩ := plotLevel_of_compute h
    obtain ⟨onFloor', hroad', hlevel'⟩ := plotLevel_of_compute h'
    rw [hlevel, hlevel']
    unfold plotStart
    -- the road fragments matter only for a template that would start on the building floor
    by_cases hfull : n = g.fullHeight
    · rw [if_pos hfull, if_pos hfull]
    · rw [if_neg hfull, if_neg hfull]
      by_cases htop : s.pasteOnTop = true
      · rw [if_pos (.inl htop), if_pos (.inl htop)]
      · have hon {height : Option Int} :
            RoadOnFloor g s height ↔ LiftsPlot g s (some n) height :=
          ⟨fun hon => ⟨Bool.eq_false_iff.mpr htop, ⟨n, rfl, hfull⟩, hon⟩, LiftsPlot.road⟩
        have hboth : onFloor = onFloor' := by
          rw [Bool.eq_iff_iff, hroad, hroad', hon, hon, hlift]
        rw [hboth]

/-- A template that is lifted starts at the plot's surface. -/
theorem plotLevel_of_lifted (h : compute g s plotHeight roadHeight = .ok a)
    (hlift : LiftsPlot g s plotHeight roadHeight) : a.plotLevel = g.plotHeight := by
  obtain ⟨htop, ⟨n, rfl, hfull⟩, hroad⟩ := hlift
  obtain ⟨onFloor, hon, hlevel⟩ := plotLevel_of_compute h
  rw [hlevel, plotStart, if_neg hfull, if_pos (.inr (hon.mpr hroad))]

/-- A template that is neither put on top nor lifted starts on the building floor. -/
theorem plotLevel_of_onFloor (h : compute g s (some n) roadHeight = .ok a)
    (hfull : n ≠ g.fullHeight) (htop : s.pasteOnTop = false)
    (hroad : ¬ RoadOnFloor g s roadHeight) : a.plotLevel = g.minBuild := by
  obtain ⟨onFloor, hon, hlevel⟩ := plotLevel_of_compute h
  rw [hlevel, plotStart, if_neg hfull, if_neg]
  rintro (htrue | htrue)
  · rw [htop] at htrue
    cases htrue
  · exact hroad (hon.mp htrue)

/-! ## The lowest start -/

/-- The fragments that are present start at the lowest start or above it. -/
theorem schemY_le_of_mem (h : compute g s plotHeight roadHeight = .ok a) {y : Int}
    (hy : y ∈ a.levels plotHeight roadHeight) : a.schemY ≤ y := by
  have hpresent : plotHeight.isSome ∨ roadHeight.isSome :=
    (mem_levels_iff.mp hy).imp And.left And.left
  exact (List.min?_eq_some_iff.mp ((starts_of_compute h).2.2 hpresent)).2 y hy

/-- Fragments do not start below the lowest one. -/
theorem nonneg_of_compute (h : compute g s plotHeight roadHeight = .ok a) :
    (plotHeight.isSome → 0 ≤ a.plotY) ∧ (roadHeight.isSome → 0 ≤ a.roadY) := by
  refine ⟨fun hplot => ?_, fun hroad => ?_⟩
  · have hle : a.schemY ≤ a.plotLevel := schemY_le_of_mem h (mem_levels_iff.mpr (.inl ⟨hplot, rfl⟩))
    unfold plotLevel at hle
    omega
  · have hle : a.schemY ≤ a.roadLevel := schemY_le_of_mem h (mem_levels_iff.mpr (.inr ⟨hroad, rfl⟩))
    unfold roadLevel at hle
    omega

/-- One of the fragments that are present is the lowest. -/
theorem eq_zero_of_compute (h : compute g s plotHeight roadHeight = .ok a)
    (hpresent : plotHeight.isSome ∨ roadHeight.isSome) :
    plotHeight.isSome ∧ a.plotY = 0 ∨ roadHeight.isSome ∧ a.roadY = 0 := by
  have hmem : a.schemY ∈ a.levels plotHeight roadHeight :=
    (List.min?_eq_some_iff.mp ((starts_of_compute h).2.2 hpresent)).1
  refine (mem_levels_iff.mp hmem).imp (And.imp_right fun heq => ?_) (And.imp_right fun heq => ?_)
  · unfold plotLevel at heq
    omega
  · unfold roadLevel at heq
    omega

end Anchors

/-- **Anchors count from the lowest fragment, and the heights in the world that they give are nearly
independent.** Anchors that do not overflow can be computed. The lowest start is that of a fragment
that is present, all others count up from it. Road fragments start at one height whatever the plot
template is. A plot template starts at one height whatever the road fragments are, except that it
starts at the plot's surface and not on the building floor if they lift it. Fragments of full height
start on the floor of generation. -/
theorem anchors_count_from_lowest {g : Geometry} {s : SchematicSettings}
    {plotHeight roadHeight : Option Int}
    (hrun : Anchors.compute g s plotHeight roadHeight ≠ .error .overflow) :
    ∃ a, Anchors.compute g s plotHeight roadHeight = .ok a ∧
      (plotHeight.isSome ∨ roadHeight.isSome →
        (a.levels plotHeight roadHeight).min? = some a.schemY ∧
          (plotHeight.isSome → 0 ≤ a.plotY) ∧ (roadHeight.isSome → 0 ≤ a.roadY) ∧
          (plotHeight.isSome ∧ a.plotY = 0 ∨ roadHeight.isSome ∧ a.roadY = 0)) ∧
      (∀ plotHeight' a', Anchors.compute g s plotHeight' roadHeight = .ok a' →
        a.roadLevel = a'.roadLevel) ∧
      (∀ roadHeight' a', Anchors.compute g s plotHeight roadHeight' = .ok a' →
        (Anchors.LiftsPlot g s plotHeight roadHeight ↔
          Anchors.LiftsPlot g s plotHeight roadHeight') → a.plotLevel = a'.plotLevel) ∧
      (∀ n, plotHeight = some n → n ≠ g.fullHeight → s.pasteOnTop = false →
        (Anchors.RoadOnFloor g s roadHeight → a.plotLevel = g.plotHeight) ∧
          (¬ Anchors.RoadOnFloor g s roadHeight → a.plotLevel = g.minBuild)) ∧
      (plotHeight = some g.fullHeight → a.plotLevel = g.minGen) ∧
      (roadHeight = some g.fullHeight → a.roadLevel = g.minGen) := by
  obtain ⟨a, ha⟩ := Anchors.onlyOverflow_compute.exists_eq_ok hrun
  refine ⟨a, ha, fun hpresent => ?_, fun _ _ h' => Anchors.roadLevel_congr ha h',
    fun _ _ h' => Anchors.plotLevel_congr ha h', ?_, ?_, ?_⟩
  · obtain ⟨hplot, hroad⟩ := Anchors.nonneg_of_compute ha
    exact ⟨(Anchors.starts_of_compute ha).2.2 hpresent, hplot, hroad,
      Anchors.eq_zero_of_compute ha hpresent⟩
  · rintro n rfl hfull htop
    exact ⟨fun hroad => Anchors.plotLevel_of_lifted ha ⟨htop, ⟨n, rfl, hfull⟩, hroad⟩,
      Anchors.plotLevel_of_onFloor ha hfull htop⟩
  · rintro rfl
    obtain ⟨onFloor, -, hlevel⟩ := Anchors.plotLevel_of_compute ha
    rw [hlevel, Anchors.plotStart, if_pos rfl]
  · rintro rfl
    rw [Anchors.roadLevel_of_compute ha, Anchors.roadStart, if_pos rfl]

/-- All fragments start on the building floor. -/
def SchematicSettings.onFloor : SchematicSettings :=
  { default with pasteOnTop := false, pasteRoadOnTop := false }

/-- On the floor of a small cell, a road fragment is the lowest and lifts the plot template, which
starts on the floor without it. -/
theorem anchors_count_from_low_road : ∃ a a',
    Anchors.compute .small .onFloor (some 5) (some 2) = .ok a ∧
      Anchors.compute .small .onFloor (some 5) none = .ok a' ∧
      (a.levels (some 5) (some 2)).min? = some a.schemY ∧ a.plotLevel = 3 ∧ a'.plotLevel = 1 := by
  have hroad : Anchors.compute .small .onFloor (some 5) (some 2) = .ok ⟨1, 2, 0⟩ := rfl
  have hnone : Anchors.compute .small .onFloor (some 5) none = .ok ⟨1, 0, 3⟩ := rfl
  obtain ⟨a, ha, hlow, -, -, hbuild, -⟩ := anchors_count_from_lowest fun h =>
    nomatch hroad.symm.trans h
  obtain ⟨a', ha', -, -, -, hbuild', -⟩ := anchors_count_from_lowest fun h =>
    nomatch hnone.symm.trans h
  refine ⟨a, a', ha, ha', (hlow (.inl rfl)).1, ?_, ?_⟩
  · exact (hbuild 5 rfl (by decide) rfl).1 ⟨2, rfl, .inr rfl⟩
  · exact (hbuild' 5 rfl (by decide) rfl).2 fun ⟨_, hnone, _⟩ => Option.some_ne_none _ hnone.symm

end PlotGrid
