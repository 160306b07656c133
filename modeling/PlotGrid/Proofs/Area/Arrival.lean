import PlotGrid.Proofs.Area.Split

/-!
# Fragments in the world

A voxel of a fragment without a tag is found in the world at every position that comes to its
spot, at its own height above the anchor of the fragment.

- `Geometry.ComesTo`: a position in the world at a spot of the cell.
- `Area.exists_generate_of_build`: the columns of a fresh buffer after the first pass.
- `fragments_reach_world`: the positions of a new buffer.
-/

namespace PlotGrid

/-- A position in the world comes to a spot of the cell: it is the same modulo the cell's size. -/
def Geometry.ComesTo (g : Geometry) (X Z : Int) (spot : Int × Int) : Prop :=
  (X - g.roadOffsetX) % (g.plotWidth + g.roadWidth) = spot.1 % (g.plotWidth + g.roadWidth) ∧
    (Z - g.roadOffsetZ) % (g.plotWidth + g.roadWidth) = spot.2 % (g.plotWidth + g.roadWidth)

/-- After the first pass a column at the spot of a fragment's column shows the voxels of the
fragment that have no tags. -/
theorem Area.exists_generate_of_build {a : Area} {f : Fragments} {reports : Array Notice}
    {b : Buffer} (h : a.geometry.Paved) (hf : f.Fits a.geometry)
    (hbuild : (Overlay.build a.registry a.geometry a.schematics f).exec =
      (.ok a.overlay, reports))
    (hb : b.Fresh) (hrun : ¬ Overflows (a.generate.exec b).1) :
    ∃ first, a.generate.exec b = (.ok (), first) ∧
      ∀ s c, Slot.clip? f s = some c → ∀ x y z, x < c.width → y < c.height → z < c.length →
        (c.cell x y z).isAir = false → (s.shown a.registry (c.cell x y z)).isEntity = false →
        ∀ placeX placeZ, placeX < b.width → placeZ < b.length →
          a.geometry.ComesTo (b.bottom.x + placeX) (b.bottom.z + placeZ)
            (s.spot a.geometry c x z) →
          b.HasHeight (a.overlay.anchors.schemY + s.base a.overlay.anchors + y) →
          first.voxel? placeX (a.overlay.anchors.schemY + s.base a.overlay.anchors + y) placeZ =
            some (s.shown a.registry (c.cell x y z)) := by
  have hcell : a.HasCell := h.size_pos
  have ho : a.overlay.Narrow := Overlay.narrow_of_build hbuild
  rw [not_overflows_generate_iff hcell ho hb] at hrun
  obtain ⟨columns, hcolumns, -⟩ := hrun.2
  obtain ⟨first, hgenerate, hfirstAt, -⟩ := exists_generate_eq hcell ho hb hrun hcolumns
  refine ⟨first, hgenerate, ?_⟩
  intro s c hc x y z hx hy hz hair huntagged placeX placeZ hplaceX hplaceZ hspot hheight
  obtain ⟨upper, hupper, hmem⟩ := mem_columns_iff hcell hb.narrow hcolumns
  rw [h.pathUpper_eq_ok] at hupper
  -- the place has one column, and it lies at the spot
  obtain ⟨column, hcolumn, rfl, rfl⟩ := exists_column hcell hb.narrow hcolumns ⟨hplaceX, hplaceZ⟩
  have heq := ((hmem column).mp hcolumn).2
  have hkind : column.kind = .classify column.rx column.rz a.geometry.pathLower
      (a.geometry.lead + a.geometry.plotWidth) := by
    rw [heq, Except.ok.inj hupper]
    rfl
  have hshown := overlayAt?_of_build column h hf hbuild hc hx hy hz hair
    ((congrArg Column.rx heq).trans hspot.1) ((congrArg Column.rz heq).trans hspot.2) hkind
  rw [hfirstAt column hcolumn _ hheight]
  exact firstAt?_of_untagged hshown huntagged

/-- **A voxel of a fragment is found in the world.** Let fragments that fit be installed in an area
with roads that was made from a configuration, and let neither the installation nor the first pass
over a new buffer overflow. Then a voxel of a fragment that is not air and, as it is shown in its
slot, has no tag is found at every position of the buffer that comes to its spot, at its own
height above the anchor of the fragment. The buffers of chunks are new buffers by
`Buffer.forChunk?_eq_ok`. -/
theorem fragments_reach_world {a₀ : Area} {f : Fragments} (haccepted : a₀.Accepted)
    (hroad : 1 ≤ a₀.geometry.roadWidth) (hfits : f.Fits a₀.geometry)
    (hinstall : (a₀.install f).exec.1 ≠ .error .overflow) :
    ∃ a summary notices anchors,
      (a₀.install f).exec = (.ok (a, summary), notices) ∧
      f.anchors a₀.geometry a₀.schematics = .ok anchors ∧
      ∀ (bottom top : BlockPos) (track : Bool) (b : Buffer), bottom.InRange → top.InRange →
        Buffer.new? bottom top track = .ok b → ¬ Overflows (a.generate.exec b).1 →
        ∃ first, a.generate.exec b = (.ok (), first) ∧
          ∀ s c, Slot.clip? f s = some c →
          ∀ x y z, x < c.width → y < c.height → z < c.length →
            (c.cell x y z).isAir = false →
            (s.shown a₀.registry (c.cell x y z)).isEntity = false →
          ∀ X Y Z : Int,
            (bottom.x ≤ X ∧ X ≤ top.x) → (bottom.y ≤ Y ∧ Y ≤ top.y) →
            (bottom.z ≤ Z ∧ Z ≤ top.z) →
            a₀.geometry.ComesTo X Z (s.spot a₀.geometry c x z) →
            Y = anchors.schemY + s.base anchors + y →
            first.voxel? (X - bottom.x).toNat Y (Z - bottom.z).toNat =
              some (s.shown a₀.registry (c.cell x y z)) := by
  have hsound := haccepted.sound
  have hpaved : a₀.geometry.Paved := ⟨hsound.geometry.plot, hroad, hsound.geometry.size⟩
  obtain ⟨o, reports, hbuild⟩ := Overlay.exists_build_eq hpaved (Area.build_of_install hinstall)
  obtain ⟨notices, hinstalled⟩ := Area.exists_install_eq hbuild
  obtain ⟨hanchors, hsize, -, -⟩ := Overlay.start_of_build hbuild
  refine ⟨_, _, notices, o.anchors, hinstalled, hanchors, ?_⟩
  intro bottom top track b hbottom htop hnew hrun
  have hb := Buffer.fresh_of_new? hbottom htop hnew
  obtain ⟨rfl, rfl, hwidth, hlength⟩ := Buffer.new?_eq_ok hnew
  obtain ⟨first, hgenerate, hspot⟩ :=
    Area.exists_generate_of_build (a := { a₀ with overlay := o }) hpaved hfits hbuild hb hrun
  refine ⟨first, hgenerate, ?_⟩
  intro s c hc x y z hx hy hz hair huntagged X Y Z hX hY hZ hcomes hheight
  -- places of a buffer are counted from its lower corner
  have hplaceX : b.bottom.x + ((X - b.bottom.x).toNat : Int) = X := by omega
  have hplaceZ : b.bottom.z + ((Z - b.bottom.z).toNat : Int) = Z := by omega
  rw [hheight] at hY ⊢
  refine hspot s c hc x y z hx hy hz hair huntagged _ _ (by omega) (by omega) ?_ hY
  rw [hplaceX, hplaceZ]
  exact hcomes

/-- On a small cell the post is found on its plot, and a road's block on the road beside it. -/
theorem fragments_reach_small : ∃ a summary notices first,
    (Area.small.install .small).exec = (.ok (a, summary), notices) ∧
      a.generate.exec .small = (.ok (), first) ∧
      first.voxel? 1 3 1 = some ⟨⟨1, 0⟩, none⟩ ∧ first.voxel? 1 4 0 = some ⟨⟨1, 0⟩, none⟩ := by
  obtain ⟨o, reports, hbuild⟩ := Area.small_build
  obtain ⟨notices, hinstall⟩ := Area.exists_install_eq (a := .small) hbuild
  have hfinishes : (Area.small.install .small).exec.1 ≠ .error .overflow := by
    rw [hinstall]
    intro h
    cases h
  obtain ⟨a, summary, notices', anchors, hinstall', hanchors, hchunks⟩ :=
    fragments_reach_world Area.small_accepted (by decide) Fragments.small_fits hfinishes
  rw [hinstall] at hinstall'
  obtain ⟨hresult, -⟩ := Prod.mk.inj hinstall'
  obtain ⟨rfl, -⟩ := Prod.mk.inj (Except.ok.inj hresult)
  obtain ⟨first, hgenerate, hspot⟩ := hchunks ⟨0, 0, 0⟩ ⟨2, 7, 2⟩ false .small (by decide)
    (by decide) Buffer.small_new (Area.small_runs hbuild).1
  have hanchors : anchors = ⟨3, 0, 1⟩ :=
    Except.ok.inj (hanchors.symm.trans Fragments.small_anchors)
  subst hanchors
  refine ⟨_, _, notices, first, hinstall, hgenerate, ?_, ?_⟩
  · exact hspot .plot _ rfl 0 0 0 (by decide) (by decide) (by decide) rfl rfl 1 3 1 (by decide)
      (by decide) (by decide) ⟨rfl, rfl⟩ rfl
  · exact hspot .turned _ rfl 0 0 0 (by decide) (by decide) (by decide) rfl rfl 1 4 0 (by decide)
      (by decide) (by decide) ⟨rfl, rfl⟩ rfl

end PlotGrid
