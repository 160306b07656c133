import PlotGrid.Proofs.Area.Install
import PlotGrid.Proofs.Overlay.Padding

/-!
# Areas without roads

Where there are no roads, road fragments are not placed. Their heights still have a part in where
the overlay starts. As a rule this only moves the start of the overlay and not its voxels. But a
road fragment that would lie on a floor lifts a plot template from the building floor to the plot's
surface, as it does where there are roads.

- `Fragments.LiftsPlot`: the road fragments lift the plot template.
- `Fragments.course_eq_raise`: the same template, started at a higher index of its columns.
- `Overlay.showsLike_of_builds`: overlays of one template at one height show alike.
- `Area.generate_congr`, `Area.populate_congr`: areas with such overlays are filled alike.
- `road_fragments_without_roads`: all of it for an area that was made from a configuration.
-/

namespace PlotGrid

/-! ## Where the plot template starts -/

namespace Anchors

variable {g : Geometry} {s : SchematicSettings} {n : Int} {roadHeight : Option Int} {a a' : Anchors}

/-- Without road fragments the plot template is the lowest fragment. -/
theorem plotY_of_compute (h : compute g s (some n) none = .ok a) : a.plotY = 0 := by
  obtain ⟨full, hfull, h⟩ := Checked.bind_eq_ok_iff.mp h
  obtain ⟨plotY, hplot, h⟩ := Checked.bind_eq_ok_iff.mp h
  obtain ⟨roadY, -, h⟩ := Checked.bind_eq_ok_iff.mp h
  obtain ⟨-, rfl⟩ := Coord.sub_eq_ok_iff.mp hplot
  rw [← Except.ok.inj h]
  exact Int.sub_self _

/-- A template that is not lifted starts where it starts without road fragments. -/
theorem plotLevel_of_not_liftsPlot (h : compute g s (some n) roadHeight = .ok a)
    (h' : compute g s (some n) none = .ok a') (hlift : ¬ LiftsPlot g s (some n) roadHeight) :
    a.plotLevel = a'.plotLevel := by
  refine plotLevel_congr h h' (iff_of_false hlift fun hnone => ?_)
  obtain ⟨r, hr, -⟩ := hnone.road
  cases hr

/-- A template that is lifted starts where it starts without road fragments if it is put on top. -/
theorem plotLevel_of_liftsPlot (h : compute g s (some n) roadHeight = .ok a)
    (h' : compute g { s with pasteOnTop := true } (some n) none = .ok a')
    (hlift : LiftsPlot g s (some n) roadHeight) : a.plotLevel = a'.plotLevel := by
  obtain ⟨n', hn', hfull⟩ := hlift.plot
  obtain rfl := Option.some.inj hn'
  obtain ⟨onFloor', -, hlevel'⟩ := plotLevel_of_compute h'
  rw [plotLevel_of_lifted h hlift, hlevel', plotStart, if_neg hfull, if_pos (.inl rfl)]

end Anchors

/-! ## The placements of the plot template -/

namespace Slot

variable {plan plan' : Plan} {k : Nat} {c : Clip} {x z : Nat}

theorem voxelPlacement_eq_raise (hg : plan.geometry = plan'.geometry)
    (hk : plan.anchors.plotY = plan'.anchors.plotY + k) (h0 : 0 ≤ plan'.anchors.plotY)
    {cell : Nat × Voxel} (hcell : cell.1 < c.coordHeight.toNat) :
    voxelPlacement plan c x z cell .plot = (voxelPlacement plan' c x z cell .plot).raise k := by
  have hindex : cell.1 + plan.anchors.plotY = cell.1 + plan'.anchors.plotY + k := by omega
  have hheight : (plan.anchors.plotY + c.coordHeight).toNat =
      (plan'.anchors.plotY + c.coordHeight).toNat + k := by omega
  simp only [voxelPlacement, Placement.raise, base, columnHeight, hg, hindex, hheight]

theorem biomePlacement_eq_raise (hg : plan.geometry = plan'.geometry) :
    biomePlacement plan c x z .plot = (biomePlacement plan' c x z .plot).raise k := by
  rw [biomePlacement, biomePlacement, hg, Placement.raise]

end Slot

namespace Clip

variable {plan plan' : Plan} {k : Nat}

/-- A template that starts at a higher index of its columns has its placements raised. -/
theorem course_eq_raise (hg : plan.geometry = plan'.geometry)
    (hk : plan.anchors.plotY = plan'.anchors.plotY + k) (h0 : 0 ≤ plan'.anchors.plotY) (c : Clip) :
    c.course plan [.plot] = (c.course plan' [.plot]).map (Placement.raise k) := by
  unfold course
  rw [List.map_flatMap]
  refine List.flatMap_congr ?_
  rintro ⟨x, z⟩ -
  dsimp only
  have hvoxels : ∀ cell ∈ c.solids x z,
      [Slot.plot].map (Slot.voxelPlacement plan c x z cell) =
        ([Slot.plot].map (Slot.voxelPlacement plan' c x z cell)).map (Placement.raise k) := by
    intro cell hcell
    rw [List.map_singleton, List.map_singleton, List.map_singleton,
      Slot.voxelPlacement_eq_raise hg hk h0 (mem_solids_iff.mp hcell).1]
  rw [List.map_append, List.map_flatMap, List.flatMap_congr hvoxels, List.map_singleton,
    List.map_singleton, List.map_singleton, Slot.biomePlacement_eq_raise hg]

theorem upright_of_mem_course (h0 : 0 ≤ plan.anchors.plotY) (c : Clip) {p : Placement}
    (hp : p ∈ c.course plan [.plot]) : p.Upright := by
  rcases of_mem_course hp with ⟨s, hs, x, z, cell, -, rfl⟩ | ⟨x, z, tag, rfl⟩
  · rw [List.mem_singleton.mp hs]
    exact Int.add_nonneg (Int.natCast_nonneg _) h0
  · trivial

end Clip

namespace Fragments

variable {f : Fragments} {g : Geometry} {s : SchematicSettings}

/-- The plot template alone. -/
def plotOnly (f : Fragments) : Fragments :=
  { none with plot := f.plot }

/-- The road fragments lift the plot template. -/
def LiftsPlot (f : Fragments) (g : Geometry) (s : SchematicSettings) : Prop :=
  Anchors.LiftsPlot g s (f.plot.map Clip.coordHeight)
    ((f.sideroad.or f.intersection).map Clip.coordHeight)

theorem anchors_plotOnly {c : Clip} (hc : f.plot = some c) :
    f.plotOnly.anchors g s = Anchors.compute g s (some c.coordHeight) .none := by
  rw [anchors, plotOnly, hc, Option.map_some]
  rfl

/-- Without roads only the plot template is placed. -/
theorem course_of_not_hasRoad {plan : Plan} (h : f.hasRoad plan.geometry = false) :
    f.course plan = (f.plot.map fun c => c.course plan [.plot]).getD [] := by
  rw [course_eq, h]
  exact List.append_nil _

end Fragments

namespace Overlay

variable {reg : Registry} {g : Geometry} {s s' : SchematicSettings} {f : Fragments}
  {o o' blank blank' : Overlay} {notices notices' : Array Notice}

/-- Without roads the overlays of all fragments and of the template alone start with the same
switches. -/
theorem switches_of_start (hroad : f.hasRoad g = false) (hstart : start g s f = .ok blank)
    (hstart' : start g s' f.plotOnly = .ok blank') :
    blank.hasPlot = blank'.hasPlot ∧ blank.hasRoad = blank'.hasRoad := by
  obtain ⟨-, -, -, -, -, hplots, hroads⟩ := start_eq_ok hstart
  obtain ⟨-, -, -, -, -, hplots', hroads'⟩ := start_eq_ok hstart'
  rw [hplots, hplots', hroads, hroads', hroad]
  exact ⟨rfl, rfl⟩

/-- Before the first placement, the overlay of all fragments starts lower than that of the template
alone, by the index at which it has the template. -/
theorem padded_of_start (hroad : f.hasRoad g = false) (hstart : start g s f = .ok blank)
    (hstart' : start g s' f.plotOnly = .ok blank') {k : Nat}
    (hk : blank.anchors.schemY + k = blank'.anchors.schemY) : Padded k blank blank' := by
  obtain ⟨-, hsize, -, hcolumns, hbiomes, -⟩ := start_eq_ok hstart
  obtain ⟨-, hsize', -, hcolumns', hbiomes', -⟩ := start_eq_ok hstart'
  obtain ⟨hplots, hroads⟩ := switches_of_start hroad hstart hstart'
  refine ⟨Except.ok.inj (hsize.symm.trans hsize'), hk, hplots, hroads, fun key => ?_,
    fun key => ?_⟩
  · rw [hcolumns, hcolumns', Std.HashMap.getElem?_empty]
    rfl
  · rw [hbiomes, hbiomes']

/-- **Overlays of one template at one height show alike**, if there are no roads. -/
theorem showsLike_of_builds (hroad : f.hasRoad g = false)
    (h : (build reg g s f).exec = (.ok o, notices))
    (h' : (build reg g s' f.plotOnly).exec = (.ok o', notices'))
    (hlevel : f.plot.isSome → o.anchors.plotLevel = o'.anchors.plotLevel) : o.ShowsLike o' := by
  have hnarrow := narrow_of_build h
  obtain ⟨blank, hstart, -, d, hd, -, rfl, -⟩ := build_eq_ok h
  obtain ⟨blank', hstart', -, d', hd', -, rfl, -⟩ := build_eq_ok h'
  rw [Fragments.course_of_not_hasRoad hroad] at hd
  rw [Fragments.course_of_not_hasRoad (f := f.plotOnly) rfl] at hd'
  have hplotOnly : f.plotOnly.plot = f.plot := rfl
  rw [hplotOnly] at hd'
  cases hc : f.plot with
  | none =>
    -- nothing is placed
    rw [hc] at hd hd'
    obtain ⟨-, -, -, hcolumns, hbiomes, -⟩ := start_eq_ok hstart
    obtain ⟨-, -, -, hcolumns', hbiomes', -⟩ := start_eq_ok hstart'
    obtain ⟨hplots, hroads⟩ := switches_of_start hroad hstart hstart'
    subst hd hd'
    exact showsLike_of_empty hplots hroads hcolumns hcolumns' hbiomes hbiomes'
  | some c =>
    rw [hc] at hd hd'
    have hanchors : d.overlay.anchors = blank.anchors := by rw [hd, Draft.anchors_foldl]
    have hanchors' : d'.overlay.anchors = blank'.anchors := by rw [hd', Draft.anchors_foldl]
    rw [hc, hanchors, hanchors'] at hlevel
    have hnonneg : 0 ≤ blank.anchors.plotY := Slot.base_nonneg (s := .plot)
      (start_eq_ok hstart).1 hc
    have hzero : blank'.anchors.plotY = 0 := by
      have hcompute := (start_eq_ok hstart').1
      rw [Fragments.anchors_plotOnly hc] at hcompute
      exact Anchors.plotY_of_compute hcompute
    have hstarts := hlevel rfl
    unfold Anchors.plotLevel at hstarts
    -- the template starts at index zero of the one overlay and at index `k` of the other
    obtain ⟨k, hk⟩ := Int.eq_ofNat_of_zero_le hnonneg
    have hraise : c.course ⟨g, s, blank.anchors⟩ [.plot] =
        (c.course ⟨g, s', blank'.anchors⟩ [.plot]).map (Placement.raise k) := by
      refine Clip.course_eq_raise ?_ ?_ ?_ c
      · rfl
      · dsimp only
        omega
      · dsimp only
        omega
    rw [Option.map_some, Option.getD_some] at hd hd'
    refine Padded.showsLike (k := k) ?_ hnarrow
    rw [hd, hd', hraise]
    refine Padded.foldl _ (fun p hp => Clip.upright_of_mem_course ?_ c hp)
      (padded_of_start hroad hstart hstart' (by omega))
    dsimp only
    omega

end Overlay

/-! ## Filling buffers -/

namespace Area

variable {a a' : Area}

theorem generate_congr (hgeometry : a.geometry = a'.geometry) (hblocks : a.blocks = a'.blocks)
    (hbiome : a.biome = a'.biome) (ho : a.overlay.ShowsLike a'.overlay) :
    a.generate = a'.generate := by
  have hfloor (h : HeightRange) (c : Column) : a.floorColumn h c = a'.floorColumn h c := by
    rw [floorColumn, floorColumn, hgeometry, hblocks]
  have hfill (h : HeightRange) (lowest : Int) (c : Column) :
      a.fillColumn h lowest c = a'.fillColumn h lowest c := by
    rw [fillColumn, fillColumn, hgeometry, hblocks, ho.hasRoad]
  have hover (h : HeightRange) (c : Column) : a.overlayColumn h c = a'.overlayColumn h c := by
    rw [overlayColumn, overlayColumn, ho.appliesTo, ho.stamp, ho.biome]
  have hcolumn : a.generateColumn = a'.generateColumn := by
    funext h lowest c
    rw [generateColumn, generateColumn, hfloor, hfill, hover]
  have habove : a.aboveFloor = a'.aboveFloor := by
    rw [aboveFloor, aboveFloor, hgeometry, hblocks]
  have hbiomes : a.generateBiomes = a'.generateBiomes := by
    funext width length
    rw [generateBiomes, generateBiomes, hbiome]
  rw [generate, generate, hcolumn, habove, hbiomes, hgeometry]

theorem populate_congr (hgeometry : a.geometry = a'.geometry)
    (ho : a.overlay.ShowsLike a'.overlay) : a.populate = a'.populate := by
  have hcolumn : a.populateColumn = a'.populateColumn := by
    funext h c
    rw [populateColumn, populateColumn, ho.appliesTo, ho.hasEntity, ho.stamp]
  rw [populate, populate, hcolumn, hgeometry, ho.hasRoad, ho.hasPlot]

/-- The area fills every buffer as another one does after an installation, if that goes through. -/
def FillsAsInstalled (a on : Area) (f : Fragments) : Prop :=
  (on.install f).exec.1 ≠ .error .overflow →
    ∃ a' summary notices, (on.install f).exec = (.ok (a', summary), notices) ∧
      a.generate = a'.generate ∧ a.populate = a'.populate

/-- The areas differ in their settings and overlays at most. -/
structure Resembles (a on : Area) : Prop where
  geometry : a.geometry = on.geometry
  blocks : a.blocks = on.blocks
  biome : a.biome = on.biome
  registry : a.registry = on.registry

/-- Settings have a part in where the overlay starts, and the passes see no other difference. -/
theorem fillsAsInstalled_plotOnly {on : Area} {f : Fragments} {notices : Array Notice}
    (hcell : on.HasCell) (hon : a.Resembles on) (hroad : f.hasRoad a.geometry = false)
    (hbuild : (Overlay.build a.registry a.geometry a.schematics f).exec =
      (.ok a.overlay, notices))
    (hlevel : ∀ c a', f.plot = some c →
      Anchors.compute a.geometry on.schematics (some c.coordHeight) none = .ok a' →
      a.overlay.anchors.plotLevel = a'.plotLevel) :
    a.FillsAsInstalled on f.plotOnly := by
  intro hrun
  obtain ⟨o', reports, hbuild'⟩ := Overlay.exists_build_eq_of_pos hcell (build_of_install hrun)
  obtain ⟨notices', hinstall⟩ := exists_install_eq hbuild'
  rw [← hon.registry, ← hon.geometry] at hbuild'
  have hshows : a.overlay.ShowsLike o' := by
    refine Overlay.showsLike_of_builds hroad hbuild hbuild' fun hplot => ?_
    obtain ⟨c, hc⟩ := Option.isSome_iff_exists.mp hplot
    have hanchors := (Overlay.start_of_build hbuild').1
    rw [Fragments.anchors_plotOnly hc] at hanchors
    exact hlevel c o'.anchors hc hanchors
  exact ⟨_, _, _, hinstall, generate_congr hon.geometry hon.blocks hon.biome hshows,
    populate_congr hon.geometry hshows⟩

end Area

/-- **Without roads, road fragments have no effect but one.** Both passes fill every buffer as if
the plot template had been installed alone. Only where a road fragment would lie on a floor, and the
template would start on the building floor, the template is at the plot's surface: then the passes
do as if it had been installed alone and on top. -/
theorem road_fragments_without_roads {a₀ : Area} {f : Fragments} (h : a₀.Accepted)
    (hroad : a₀.geometry.roadWidth = 0) (hrun : (a₀.install f).exec.1 ≠ .error .overflow) :
    ∃ a summary notices, (a₀.install f).exec = (.ok (a, summary), notices) ∧
      (¬ f.LiftsPlot a₀.geometry a₀.schematics → a.FillsAsInstalled a₀ f.plotOnly) ∧
      (f.LiftsPlot a₀.geometry a₀.schematics →
        a.FillsAsInstalled { a₀ with schematics.pasteOnTop := true } f.plotOnly) := by
  have hsound := h.sound
  obtain ⟨o, reports, hbuild⟩ :=
    Overlay.exists_build_eq_of_pos hsound.hasCell (Area.build_of_install hrun)
  obtain ⟨notices, hinstall⟩ := Area.exists_install_eq hbuild
  have hnone : f.hasRoad a₀.geometry = false := by
    rw [Fragments.hasRoad, hroad]
    exact Bool.and_false _
  have hanchors := (Overlay.start_of_build hbuild).1
  refine ⟨_, _, notices, hinstall, fun hlift => ?_, fun hlift => ?_⟩
  · refine Area.fillsAsInstalled_plotOnly hsound.hasCell ⟨rfl, rfl, rfl, rfl⟩ hnone hbuild
      fun c a' hc ha' => ?_
    rw [Fragments.LiftsPlot, hc] at hlift
    rw [Fragments.anchors, hc] at hanchors
    exact Anchors.plotLevel_of_not_liftsPlot hanchors ha' hlift
  · refine Area.fillsAsInstalled_plotOnly hsound.hasCell ⟨rfl, rfl, rfl, rfl⟩ hnone hbuild
      fun c a' hc ha' => ?_
    rw [Fragments.LiftsPlot, hc] at hlift
    rw [Fragments.anchors, hc] at hanchors
    exact Anchors.plotLevel_of_liftsPlot hanchors ha' hlift

/-! ## A cell without roads -/

/-- A small cell without roads. -/
def Geometry.roadless : Geometry :=
  { Geometry.small with roadWidth := 0 }

/-- A small cell of stone without roads and fragments. -/
def Area.roadless (s : SchematicSettings) : Area :=
  { Area.small with
    geometry := .roadless
    schematics := s
    overlay := ⟨2, ⟨3, 0, 1⟩, false, false, ∅, ∅⟩ }

theorem Area.roadless_accepted (s : SchematicSettings) : (roadless s).Accepted := by
  have hblank : blankOverlay .roadless s = .ok (roadless s).overlay := by
    -- wall and road are equally high
    have hsurface : Anchors.roadSurface .roadless s = 4 := by
      unfold Anchors.roadSurface
      exact ite_self 4
    unfold blankOverlay Anchors.compute
    rw [hsurface]
    rfl
  exact accepted_of_parts ⟨false, s⟩ { AreaConfig.small with roadWidth := 0 } ⟨"world", 0, 15⟩ rfl
    rfl (AreaConfig.blocks_of_stone Registry.small_stone rfl rfl) rfl hblank

/-- A single block. -/
def Clip.block : Clip :=
  ⟨1, 1, 1, .replicate 1 ⟨⟨1, 0⟩, none⟩, .replicate 1 none⟩

/-- A block on the plot and one on the road. -/
def Fragments.blocks : Fragments where
  plot := some .block
  sideroad := some .block
  intersection := .none

/-- Road fragments start on the building floor. -/
def SchematicSettings.roadOnFloor : SchematicSettings :=
  { onFloor with pasteOnTop := true }

theorem Fragments.blocks_anchors :
    Fragments.blocks.anchors .roadless .onFloor = .ok ⟨1, 2, 0⟩ ∧
      Fragments.blocks.plotOnly.anchors .roadless .onFloor = .ok ⟨1, 0, 3⟩ ∧
      Fragments.blocks.anchors .roadless .roadOnFloor = .ok ⟨1, 2, 0⟩ ∧
      Fragments.blocks.plotOnly.anchors .roadless .roadOnFloor = .ok ⟨3, 0, 1⟩ := by
  decide +kernel

theorem Fragments.blocks_liftsPlot : Fragments.blocks.LiftsPlot .roadless .onFloor :=
  ⟨rfl, ⟨1, by decide, by decide⟩, ⟨1, by decide, .inr rfl⟩⟩

/-- A build on the cell does not overflow if all placements can be computed. -/
theorem Overlay.roadless_build {s : SchematicSettings} {f : Fragments} {a : Anchors}
    (ha : f.anchors .roadless s = .ok a)
    (hall : (f.placements .roadless s a).all (·.isOk) = true) :
    ∃ o reports, (build .small .roadless s f).exec = (.ok o, reports) ∧ o.anchors = a ∧
      o.size = 2 := by
  have hstart : start .roadless s f =
      .ok ⟨2, a, f.plot.isSome, f.plotOverhangs .roadless || f.hasRoad .roadless, ∅, ∅⟩ := by
    rw [start, ha]
    rfl
  have hrun : (build .small .roadless s f).exec.1 ≠ .error .overflow :=
    ne_overflow_of_start hstart hall
  obtain ⟨o, reports, hbuild⟩ := exists_build_eq_of_pos (by decide) hrun
  obtain ⟨hanchors, hsize, -⟩ := start_of_build hbuild
  exact ⟨o, reports, hbuild, Except.ok.inj (hanchors.symm.trans ha), (Except.ok.inj hsize).symm⟩

/-- What the first pass leaves in the corner of the cell, at the plot's surface: there is stone, and
the overlay on top of it. -/
theorem Area.roadless_generates {s : SchematicSettings} {f : Fragments} {a : Anchors}
    (ha : f.anchors .roadless s = .ok a)
    (hall : (f.placements .roadless s a).all (·.isOk) = true)
    (hplot : f.plot.isSome = true) (hlow : a.schemY = 1)
    (hclips : ∀ slot c, Slot.clip? f slot = some c → c = .block)
    (hhigh : ∀ slot, Coord.InRange (1 + Slot.columnHeight ⟨.roadless, s, a⟩ .block slot)) :
    ∃ a' summary notices first, ((roadless s).install f).exec = (.ok (a', summary), notices) ∧
      a'.generate.exec .small = (.ok (), first) ∧
      first.voxel? 0 3 0 = ((f.leaves? .small ⟨.roadless, s, a⟩ 2 0 2).filter fun v =>
        v.isEntity == false).or (some ⟨⟨7, 0⟩, none⟩) := by
  obtain ⟨o, reports, hbuild, rfl, hsize⟩ := Overlay.roadless_build ha hall
  obtain ⟨notices, hinstall⟩ := exists_install_eq (a := roadless s) hbuild
  have hcell : { roadless s with overlay := o }.HasCell := show (0 : Int) < 2 + 0 by decide
  have hstamp := Overlay.canStamp_of_build hbuild (by rw [hlow]; decide) (fun slot c hc => by
    rw [hclips slot c hc, hlow]
    exact hhigh slot) false
  have hfill (kind : ColumnKind) : { roadless s with overlay := o }.CanFill kind := by
    cases kind with
    | road => trivial
    | wall => exact fun _ => show Coord.InRange 5 by decide
    | plot => exact show Coord.InRange 2 by decide
  obtain ⟨columns, hcolumns, hmem⟩ : ∃ columns, columnsOf .roadless ⟨0, 0, 0⟩ 3 3 = .ok columns ∧
      ⟨0, 0, 0, 0, .plot⟩ ∈ columns := ⟨_, rfl, by decide⟩
  obtain ⟨first, hexec, hfirst, -⟩ := exists_generate_eq hcell (Overlay.narrow_of_build hbuild)
    Buffer.small_fresh ⟨⟨_, rfl⟩, columns, hcolumns, fun c _ =>
      ⟨hfill c.kind, fun _ => hstamp c.rx c.rz⟩⟩ hcolumns
  have happlies : o.appliesTo .plot = true := (Overlay.start_of_build hbuild).2.2.1.trans hplot
  have hlayer : o.layer? false 0 0 3 =
      (f.leaves? .small ⟨.roadless, s, o.anchors⟩ 2 0 2).filter fun v => v.isEntity == false := by
    have hheld := Overlay.held?_of_build hbuild 0 2
    rw [hsize] at hheld
    rw [Overlay.layer?, Overlay.cell?, hlow, hsize, ← hheld]
    rfl
  refine ⟨_, _, notices, first, hinstall, hexec, ?_⟩
  rw [hfirst _ hmem 3 (by decide), firstAt?, part?]
  dsimp only
  rw [if_pos happlies, hlayer]
  rfl

theorem Fragments.eq_block_of_clip? {slot : Slot} {c : Clip}
    (hc : Slot.clip? .blocks slot = some c) : c = .block := by
  cases slot with
  | plot | straight | turned => exact (Option.some.inj hc).symm
  | crossing => cases hc

theorem Fragments.eq_block_of_plotOnly {slot : Slot} {c : Clip}
    (hc : Slot.clip? Fragments.blocks.plotOnly slot = some c) : c = .block := by
  cases slot with
  | plot => exact (Option.some.inj hc).symm
  | straight | turned | crossing => cases hc

/-- A block on the road that is not there lifts the block on the plot. -/
theorem road_fragment_lifts_block :
    (Area.roadless .onFloor).Accepted ∧ (Area.roadless .onFloor).geometry.roadWidth = 0 ∧
      ∃ a a' summary summary' notices notices' first first',
        ((Area.roadless .onFloor).install .blocks).exec = (.ok (a, summary), notices) ∧
        ((Area.roadless .onFloor).install Fragments.blocks.plotOnly).exec =
          (.ok (a', summary'), notices') ∧
        a.generate.exec .small = (.ok (), first) ∧ a'.generate.exec .small = (.ok (), first') ∧
        first.voxel? 0 3 0 ≠ first'.voxel? 0 3 0 := by
  have hhigh (a : Anchors) (ha : a = ⟨1, 2, 0⟩ ∨ a = ⟨1, 0, 3⟩) (slot : Slot) :
      Coord.InRange (1 + slot.columnHeight ⟨.roadless, .onFloor, a⟩ .block) := by
    rcases ha with rfl | rfl
    · cases slot <;> decide
    · cases slot <;> decide
  obtain ⟨a, summary, notices, first, hinstall, hexec, hvoxel⟩ := Area.roadless_generates
    Fragments.blocks_anchors.1 (by decide +kernel) rfl rfl
    (fun _ _ => Fragments.eq_block_of_clip?) (hhigh _ (.inl rfl))
  obtain ⟨a', summary', notices', first', hinstall', hexec', hvoxel'⟩ := Area.roadless_generates
    Fragments.blocks_anchors.2.1 (by decide +kernel) rfl rfl
    (fun _ _ => Fragments.eq_block_of_plotOnly) (hhigh _ (.inr rfl))
  refine ⟨Area.roadless_accepted .onFloor, rfl, a, a', summary, summary', notices, notices', first,
    first', hinstall, hinstall', hexec, hexec', ?_⟩
  rw [hvoxel, hvoxel']
  decide +kernel

/-- The block on the plot is lifted to where it would be on top. There the block on the road has no
effect. -/
theorem roadless_blocks_are_on_top : ∃ lifted onTop alone summary summary' summary'' notices
    notices' notices'',
    ((Area.roadless .onFloor).install .blocks).exec = (.ok (lifted, summary), notices) ∧
      ((Area.roadless .roadOnFloor).install .blocks).exec = (.ok (onTop, summary'), notices') ∧
      ((Area.roadless .roadOnFloor).install Fragments.blocks.plotOnly).exec =
        (.ok (alone, summary''), notices'') ∧
      lifted.generate = alone.generate ∧ onTop.generate = alone.generate := by
  have hruns {s : SchematicSettings} {f : Fragments} {a : Anchors}
      (ha : f.anchors .roadless s = .ok a)
      (hall : (f.placements .roadless s a).all (·.isOk) = true) :
      ((Area.roadless s).install f).exec.1 ≠ .error .overflow := by
    obtain ⟨o, reports, hbuild, -⟩ := Overlay.roadless_build ha hall
    obtain ⟨notices, hinstall⟩ := Area.exists_install_eq (a := .roadless s) hbuild
    rw [hinstall]
    intro hfault
    cases hfault
  have halone : ((Area.roadless .roadOnFloor).install Fragments.blocks.plotOnly).exec.1 ≠
      .error .overflow := hruns Fragments.blocks_anchors.2.2.2 (by decide +kernel)
  obtain ⟨lifted, summary, notices, hlifted, -, hlift⟩ := road_fragments_without_roads
    (Area.roadless_accepted .onFloor) rfl (hruns Fragments.blocks_anchors.1 (by decide +kernel))
  obtain ⟨onTop, summary', notices', honTop, htop, -⟩ := road_fragments_without_roads
    (Area.roadless_accepted .roadOnFloor) rfl
    (hruns Fragments.blocks_anchors.2.2.1 (by decide +kernel))
  obtain ⟨a, _, _, ha, hgenerate, -⟩ := hlift Fragments.blocks_liftsPlot halone
  obtain ⟨a', summary'', notices'', ha', hgenerate', -⟩ :=
    htop (fun h => by cases h.settings) halone
  have hsame : a = a' := by
    cases ha.symm.trans ha'
    rfl
  rw [hsame] at hgenerate
  exact ⟨lifted, onTop, a', summary, summary', summary'', notices, notices', notices'', hlifted,
    honTop, ha', hgenerate, hgenerate'⟩

end PlotGrid
