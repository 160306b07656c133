import PlotGrid.Proofs.Area.Install

/-!
# Spots of fragments

A column of an area that lies at the spot of a fragment's column belongs to the slot of the
fragment, so the overlay applies to it and it shows the voxels of the fragment.

- `Slot.eq_owner_of_spot`: a spot belongs to the slot that its fragment was placed in.
- `Overlay.appliesTo_of_build`: the overlay applies to the columns of slots that are filled.
- `Area.overlayAt?_of_build`: what the columns at a spot show.
-/

namespace PlotGrid

/-! ## Slots that are filled -/

/-- A spot of a fragment that fits belongs to the slot of the fragment. -/
theorem Slot.eq_owner_of_spot {g : Geometry} {f : Fragments} {s : Slot} {c : Clip} (h : g.Paved)
    (hf : f.Fits g) (hc : clip? f s = some c) {x z : Nat} (hx : x < c.width) (hz : z < c.length) :
    s = owner g ((s.spot g c x z).1 % (g.plotWidth + g.roadWidth))
      ((s.spot g c x z).2 % (g.plotWidth + g.roadWidth)) := by
  have hholds := holds_nominal h hf hc hx hz
  rw [← offset_nominal h hf hc x z]
  exact ((offset_emod_iff h hholds (h.emod_bounds _) (h.emod_bounds _)).mp ⟨rfl, rfl⟩).1

namespace Overlay

variable {reg : Registry} {g : Geometry} {settings : SchematicSettings} {f : Fragments}
  {o : Overlay} {notices : Array Notice}

/-- An overlay repeats with the cell. -/
theorem cell?_emod (o : Overlay) (x z i : Int) :
    o.cell? (x % o.size) (z % o.size) i = o.cell? x z i := by
  rw [cell?, cell?, Cell.key, Cell.key, Int.emod_emod, Int.emod_emod]

/-- The overlay applies to the columns of a slot that is filled. -/
theorem appliesTo_of_build (h : g.Paved) (hexec : (build reg g settings f).exec = (.ok o, notices))
    {rx rz : Int} {c : Clip} (hc : Slot.clip? f (Slot.owner g rx rz) = some c) :
    o.appliesTo (ColumnKind.classify rx rz g.pathLower (g.lead + g.plotWidth)) = true := by
  obtain ⟨-, -, hplot, hroad⟩ := start_of_build hexec
  have hkind := Slot.classify_eq_plot_iff_owner h rx rz
  have hbeside (hne : ColumnKind.classify rx rz g.pathLower (g.lead + g.plotWidth) ≠ .plot) :
      o.hasRoad = true := by
    rw [hroad, Fragments.hasRoad_of_clip? h hc fun hs => hne (hkind.mpr hs), Bool.or_true]
  cases hclass : ColumnKind.classify rx rz g.pathLower (g.lead + g.plotWidth) with
  | plot =>
    rw [hkind.mp hclass] at hc
    show o.hasPlot = true
    rw [hplot]
    exact Option.isSome_of_mem hc
  | road => exact hbeside (by rw [hclass]; decide)
  | wall => exact hbeside (by rw [hclass]; decide)

end Overlay

/-! ## Columns of an area -/

/-- A column at the spot of a fragment's column shows the voxels of the fragment. -/
theorem Area.overlayAt?_of_build {a : Area} {f : Fragments} {reports : Array Notice}
    (column : Column) (h : a.geometry.Paved) (hf : f.Fits a.geometry)
    (hbuild : (Overlay.build a.registry a.geometry a.schematics f).exec =
      (.ok a.overlay, reports))
    {s : Slot} {c : Clip} (hc : Slot.clip? f s = some c) {x y z : Nat} (hx : x < c.width)
    (hy : y < c.height) (hz : z < c.length) (hair : (c.cell x y z).isAir = false)
    (hrx : column.rx = (s.spot a.geometry c x z).1 %
      (a.geometry.plotWidth + a.geometry.roadWidth))
    (hrz : column.rz = (s.spot a.geometry c x z).2 %
      (a.geometry.plotWidth + a.geometry.roadWidth))
    (hkind : column.kind = .classify column.rx column.rz a.geometry.pathLower
      (a.geometry.lead + a.geometry.plotWidth)) :
    a.overlayAt? column (a.overlay.anchors.schemY + s.base a.overlay.anchors + y) =
      some (s.shown a.registry (c.cell x y z)) := by
  obtain ⟨-, hsize, -, -⟩ := Overlay.start_of_build hbuild
  have hsize : a.overlay.size = a.geometry.plotWidth + a.geometry.roadWidth :=
    Except.ok.inj (hsize.symm.trans h.size_eq_ok)
  -- the position belongs to the slot of the fragment, so the overlay applies to it
  have howner := Slot.eq_owner_of_spot h hf hc hx hz
  rw [← hrx, ← hrz] at howner
  have happlies := Overlay.appliesTo_of_build h hbuild (howner ▸ hc)
  have hindex : a.overlay.anchors.schemY + s.base a.overlay.anchors + y -
      a.overlay.anchors.schemY = s.base a.overlay.anchors + y := by
    omega
  rw [overlayAt?, hkind, if_pos happlies, hindex, hrx, hrz, ← hsize, Overlay.cell?_emod]
  exact Overlay.cell?_of_build h hf hbuild hc hx hy hz hair

/-- The post of a small cell stands in the middle of its plot. -/
theorem Area.small_overlayAt? {o : Overlay} {reports : Array Notice}
    (hbuild : (Overlay.build .small .small .default .small).exec = (.ok o, reports)) :
    { small with overlay := o }.overlayAt? ⟨1, 1, 1, 1, .plot⟩ 3 = some ⟨⟨1, 0⟩, none⟩ ∧
      { small with overlay := o }.overlayAt? ⟨1, 1, 1, 1, .plot⟩ 4 = some ⟨⟨2, 0⟩, some 4⟩ := by
  have hanchors := Overlay.small_anchors_of_build hbuild
  have hpost {y : Nat} (hy : y < 2) (hair : _) := overlayAt?_of_build
    (a := { small with overlay := o }) ⟨1, 1, 1, 1, .plot⟩ Geometry.small_paved
    Fragments.small_fits hbuild (s := .plot) (x := 0) (y := y) (z := 0) rfl (by decide) hy
    (by decide) hair rfl rfl rfl
  simp only [hanchors] at hpost
  exact ⟨hpost (y := 0) (by decide) rfl, hpost (y := 1) (by decide) rfl⟩

end PlotGrid
