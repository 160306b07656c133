import PlotGrid.Proofs.Area.Seamless
import PlotGrid.Proofs.Grid.Limits

/-!
# Plain columns

Where an area shows no fragments, the first pass fills each column from the floor to the surface of
its kind: without a hole, and with nothing above or below. Everything else in the column stays as
it was.

- `Geometry.surfaceOf`: where the columns of a kind end.
- `Area.plainAt`: the area's blocks in them.
- `Area.isSome_ground?_iff`: which heights the area's blocks fill.
- `Area.ground?_eq_plainAt`: what they are above the floor.
- `Area.EndsAtSurface`: what the first pass makes of a column.
- `plain_columns_end_at_surface`: the first pass over any buffer.
-/

namespace PlotGrid

/-- The surface of the columns of a kind; walls have a cap. -/
def Geometry.surfaceOf (g : Geometry) : ColumnKind → Int
  | .road => g.roadHeight
  | .wall => g.wallHeight + 1
  | .plot => g.plotHeight

/-- The area's block in a column of a kind without fragments: at the surface of walls and plots
there is another one than below. -/
def Area.plainAt (a : Area) (kind : ColumnKind) (y : Int) : Pattern :=
  match kind with
  | .road => a.blocks.road.pick
  | .wall => if y = a.geometry.wallHeight + 1 then a.blocks.wall.pick else a.blocks.wallFilling.pick
  | .plot => if y = a.geometry.plotHeight then a.blocks.top.pick else a.blocks.main.pick

namespace Area

variable {a : Area} {F : Frame} {c : Column} {kind : ColumnKind} {y : Int}

/-- The uppermost voxel of a column without fragments is the one at its surface. -/
theorem surface_eq_ok {x z h : Int} {v : Voxel} (hok : a.surface kind x z = .ok (h, v)) :
    h = a.geometry.surfaceOf kind ∧ v = a.plainAt kind h x h z := by
  cases kind with
  | road =>
    cases Except.ok.inj hok
    exact ⟨rfl, rfl⟩
  | wall =>
    obtain ⟨cap, hcap, hok⟩ := Checked.bind_eq_ok_iff.mp hok
    obtain ⟨-, rfl⟩ := Coord.add_eq_ok_iff.mp hcap
    cases Except.ok.inj hok
    exact ⟨rfl, by rw [plainAt, if_pos rfl]⟩
  | plot =>
    cases Except.ok.inj hok
    exact ⟨rfl, by rw [plainAt, if_pos rfl]⟩

/-! ## The area's blocks -/

theorem lowest_eq (a : Area) : a.lowest = a.geometry.minGen ∨
    a.lowest = a.geometry.minGen + 1 ∧ a.blocks.bedrock.isSome = true := by
  unfold lowest
  split
  · rename_i hbedrock
    exact .inr ⟨rfl, hbedrock⟩
  · exact .inl rfl

theorem isSome_floorAt?_iff : (a.floorAt? y).isSome = true ↔
    y = a.geometry.minGen ∧ a.blocks.bedrock.isSome = true := by
  unfold floorAt?
  split
  · rename_i hfloor
    simp [hfloor]
  · rename_i hfloor
    simp [Ne.symm hfloor]

/-- **Above the floor** a column shows the area's blocks up to its surface. -/
theorem blockAt?_eq_plainAt (hroad : a.overlay.hasRoad = false) (hlow : a.lowest ≤ y)
    (hhigh : y ≤ a.geometry.surfaceOf kind) : a.blockAt? kind y = some (a.plainAt kind y) := by
  cases kind with
  | road => exact if_pos ⟨hlow, hhigh⟩
  | wall =>
    by_cases hcap : y = a.geometry.wallHeight + 1
    · rw [blockAt?, plainAt, if_pos hcap, capAt?, if_pos ⟨hroad, hcap.symm⟩, Option.some_or]
    · have hbelow : y ≤ a.geometry.wallHeight :=
        Int.lt_add_one_iff.mp (Int.lt_iff_le_and_ne.mpr ⟨hhigh, hcap⟩)
      rw [blockAt?, plainAt, if_neg hcap, capAt?, if_neg fun h => hcap h.2.symm, Option.none_or,
        if_pos ⟨hlow, hbelow⟩]
  | plot =>
    by_cases htop : y = a.geometry.plotHeight
    · rw [blockAt?, plainAt, if_pos htop, if_pos htop.symm, Option.some_or]
    · have hbelow : y ≤ a.geometry.plotHeight - 1 :=
        Int.le_sub_one_of_lt (Int.lt_iff_le_and_ne.mpr ⟨hhigh, htop⟩)
      rw [blockAt?, plainAt, if_neg htop, if_neg (Ne.symm htop), Option.none_or,
        if_pos ⟨hlow, hbelow⟩]

/-- No block lies above the surface, and only that of a plot's surface may lie on the floor. -/
theorem of_isSome_blockAt? (hlevels : a.geometry.Leveled) (h : (a.blockAt? kind y).isSome = true) :
    a.geometry.minGen ≤ y ∧ y ≤ a.geometry.surfaceOf kind := by
  have hlowest := a.lowest_eq
  have hplot := hlevels.plot
  have hwall := hlevels.wall
  obtain ⟨p, hp⟩ := Option.isSome_iff_exists.mp h
  cases kind with
  | road =>
    obtain ⟨⟨hlow, hhigh⟩, -⟩ := Option.ite_none_right_eq_some.mp hp
    exact ⟨by omega, hhigh⟩
  | wall =>
    show a.geometry.minGen ≤ y ∧ y ≤ a.geometry.wallHeight + 1
    rw [blockAt?, Option.or_eq_some_iff, capAt?] at hp
    simp only [Option.ite_none_right_eq_some] at hp
    omega
  | plot =>
    show a.geometry.minGen ≤ y ∧ y ≤ a.geometry.plotHeight
    rw [blockAt?, Option.or_eq_some_iff] at hp
    simp only [Option.ite_none_right_eq_some] at hp
    omega

/-- **The area's blocks fill the heights from the floor to the surface.** -/
theorem isSome_ground?_iff (hlevels : a.geometry.Leveled) (hroad : a.overlay.hasRoad = false) :
    (a.ground? kind y).isSome = true ↔
      a.geometry.minGen ≤ y ∧ y ≤ a.geometry.surfaceOf kind := by
  rw [ground?, Option.isSome_or, Bool.or_eq_true, isSome_floorAt?_iff]
  constructor
  · rintro (hblock | ⟨rfl, -⟩)
    · exact of_isSome_blockAt? hlevels hblock
    · refine ⟨Int.le_refl _, ?_⟩
      cases kind with
      | road => exact hlevels.road.1
      | wall => exact Int.le_add_one hlevels.wall.1
      | plot => exact hlevels.plot.1
  · rintro ⟨hlow, hhigh⟩
    by_cases hlowest : a.lowest ≤ y
    · exact .inl (Option.isSome_iff_exists.mpr ⟨_, blockAt?_eq_plainAt hroad hlowest hhigh⟩)
    · -- below the blocks there is the floor alone
      rcases a.lowest_eq with heq | ⟨heq, hbedrock⟩
      · exact absurd (heq ▸ hlow) hlowest
      · exact .inr ⟨by omega, hbedrock⟩

/-- Above the floor the area's blocks are those of a plain column. -/
theorem ground?_eq_plainAt (hroad : a.overlay.hasRoad = false) (hlow : a.geometry.minGen < y)
    (hhigh : y ≤ a.geometry.surfaceOf kind) : a.ground? kind y = some (a.plainAt kind y) := by
  have hlowest : a.lowest ≤ y := by
    have hcases := a.lowest_eq
    omega
  rw [ground?, blockAt?_eq_plainAt hroad hlowest hhigh, Option.some_or]

/-! ## The first pass -/

/-- An overlay without fragments shows nothing in the first pass. -/
theorem firstAt?_of_flags (hroad : a.overlay.hasRoad = false) (hplot : a.overlay.hasPlot = false) :
    a.firstAt? F c y = (a.ground? c.kind y).map fun p => F.see p c.x y c.z := by
  rw [firstAt?, part?, Overlay.appliesTo_of_flags hroad hplot]
  rfl

/-- The heights of a column that is filled to its surface, within a frame. -/
def Fills (a : Area) (F : Frame) (c : Column) (y : Int) : Prop :=
  F.HasHeight y ∧ a.geometry.minGen ≤ y ∧ y ≤ a.geometry.surfaceOf c.kind

instance (a : Area) (F : Frame) (c : Column) (y : Int) : Decidable (a.Fills F c y) :=
  inferInstanceAs (Decidable ((_ ∧ _) ∧ _))

/-- A column of a buffer, filled from the floor to its surface: there is a voxel at each of these
heights, above the floor it is the area's block for the place in the world, and the other heights
are as before. -/
structure EndsAtSurface (a : Area) (F : Frame) (before after : Buffer) (c : Column) : Prop where
  solid : ∀ y, a.Fills F c y → (after.voxel? c.x y c.z).isSome = true
  block : ∀ y, a.Fills F c y → a.geometry.minGen < y →
    after.voxel? c.x y c.z = some (a.plainAt c.kind y (F.bottom.x + c.x) y (F.bottom.z + c.z))
  beyond : ∀ y, ¬ a.Fills F c y → after.voxel? c.x y c.z = before.voxel? c.x y c.z

/-- A column that was empty has voxels from the floor to its surface and nowhere else. -/
theorem EndsAtSurface.isSome_iff {before after : Buffer} (h : a.EndsAtSurface F before after c)
    (hempty : ∀ y, before.voxel? c.x y c.z = none) :
    (after.voxel? c.x y c.z).isSome = true ↔ a.Fills F c y := by
  constructor
  · intro hsome
    refine Classical.byContradiction ?_
    intro hbeyond
    rw [h.beyond y hbeyond, hempty] at hsome
    cases hsome
  · exact h.solid y

/-- **What is told to be the surface of a column is its uppermost voxel**, unless it is the floor.
-/
theorem EndsAtSurface.surface {before after : Buffer} {top : Int} {v : Voxel}
    (h : a.EndsAtSurface F before after c)
    (hok : a.surface c.kind (F.bottom.x + c.x) (F.bottom.z + c.z) = .ok (top, v))
    (htop : F.HasHeight top) (hfloor : a.geometry.minGen < top) :
    after.voxel? c.x top c.z = some v ∧
      ∀ y, top < y → after.voxel? c.x y c.z = before.voxel? c.x y c.z := by
  obtain ⟨rfl, rfl⟩ := surface_eq_ok hok
  refine ⟨h.block _ ⟨htop, Int.le_of_lt hfloor, Int.le_refl _⟩ hfloor, fun y hy => ?_⟩
  exact h.beyond y fun hfills => Int.not_le.mpr hy hfills.2.2

/-- **The first pass fills every column to its surface** where the overlay has no fragments. -/
theorem exists_generate_endsAtSurface {b : Buffer} (ha : a.HasCell) (hF : F.Narrow)
    (hlevels : a.geometry.Leveled) (hnarrow : a.overlay.Narrow) (hroad : a.overlay.hasRoad = false)
    (hplot : a.overlay.hasPlot = false) (hb : b.HasFrame F)
    (hrun : ¬ Overflows (a.generate.exec b).1) :
    ∃ first columns, a.generate.exec b = (.ok (), first) ∧ a.columns F = .ok columns ∧
      ∀ c ∈ columns, a.EndsAtSurface F b first c := by
  obtain ⟨first, columns, hexec, hcolumns, hvoxel⟩ := exists_generate_atop ha hF hnarrow hb hrun
  refine ⟨first, columns, hexec, hcolumns, fun c hc => ?_⟩
  have hshown (y : Int) : first.voxel? c.x y c.z =
      (if F.HasHeight y then (a.ground? c.kind y).map fun p => F.see p c.x y c.z
        else none).or (b.voxel? c.x y c.z) := by
    rw [hvoxel c hc y, firstAt?_of_flags hroad hplot]
  constructor
  case solid =>
    rintro y ⟨hy, hheights⟩
    obtain ⟨p, hp⟩ :=
      Option.isSome_iff_exists.mp ((isSome_ground?_iff hlevels hroad).mpr hheights)
    rw [hshown, if_pos hy, hp]
    rfl
  case block =>
    rintro y ⟨hy, -, hhigh⟩ hlow
    rw [hshown, if_pos hy, ground?_eq_plainAt hroad hlow hhigh]
    rfl
  case beyond =>
    intro y hbeyond
    rw [hshown]
    split
    · rename_i hy
      have hnone : a.ground? c.kind y = none := by
        refine Option.not_isSome_iff_eq_none.mp ?_
        exact fun hsome => hbeyond ⟨hy, (isSome_ground?_iff hlevels hroad).mp hsome⟩
      rw [hnone]
      rfl
    · rfl

end Area

theorem Area.Published.leveled {a : Area} (h : a.Published) : a.geometry.Leveled := by
  obtain ⟨a₀, calls, haccepted, rfl⟩ := h
  rw [(haccepted.sound.shows_after calls).variantOf.geometry_eq]
  exact haccepted.leveled

/-- **Plain columns are solid and end at their surface.** Let an area show an overlay without
fragments. A first pass that does not overflow fills each column of a buffer, whatever was written
to it, from the floor to the surface of the column's kind, and leaves the other heights as they
were. If the buffer is new, the voxels of a column are at these heights and nowhere else. -/
theorem plain_columns_end_at_surface {a : Area} {bottom top : BlockPos} {track : Bool} {b : Buffer}
    {calls : List Buffer.Call} (hpublished : a.Published) (hroad : a.overlay.hasRoad = false)
    (hplot : a.overlay.hasPlot = false) (hbottom : bottom.InRange) (htop : top.InRange)
    (hnew : Buffer.new? bottom top track = .ok b)
    (hrun : ¬ Overflows (a.generate.exec (b.after calls)).1) :
    ∃ first columns, a.generate.exec (b.after calls) = (.ok (), first) ∧
      columnsOf a.geometry bottom b.width b.length = .ok columns ∧
      (∀ x z, x < b.width → z < b.length → ∃ c ∈ columns, c.x = x ∧ c.z = z) ∧
      (∀ c ∈ columns, a.EndsAtSurface (.between bottom top track) (b.after calls) first c) ∧
      (calls = [] → ∀ c ∈ columns, ∀ y, (first.voxel? c.x y c.z).isSome = true ↔
        (bottom.y ≤ y ∧ y ≤ top.y) ∧
          a.geometry.minGen ≤ y ∧ y ≤ a.geometry.surfaceOf c.kind) := by
  have hfresh := Buffer.fresh_of_new? hbottom htop hnew
  have hbetween := Buffer.frame_of_new? hnew
  have hcell := hpublished.hasCell
  obtain ⟨first, columns, hexec, hcolumns, hends⟩ :=
    Area.exists_generate_endsAtSurface hcell hfresh.narrow hpublished.leveled hpublished.narrow
      hroad hplot (Buffer.hasFrame_after hfresh.frame calls) hrun
  have hcorner : b.bottom = bottom := congrArg Frame.bottom hbetween
  refine ⟨first, columns, hexec, hcorner ▸ hcolumns, fun x z hx hz => ?_, hbetween ▸ hends, ?_⟩
  · exact Area.exists_column hcell hfresh.narrow hcolumns ⟨hx, hz⟩
  · rintro rfl c hc y
    -- nothing was in the buffer before the pass
    have hempty (y : Int) : b.voxel? c.x y c.z = none :=
      congrArg (fun p : Content => p.voxel c.x y c.z) hfresh.content
    rw [(hends c hc).isSome_iff hempty, hbetween]
    rfl

/-- In a small area of stone the plot ends at height 3 and shows nothing above. -/
theorem plain_columns_end_at_surface_of_small : ∃ first,
    Area.small.generate.exec .small = (.ok (), first) ∧
      first.voxel? 1 3 1 = some ⟨⟨7, 0⟩, none⟩ ∧
      ∀ y, (first.voxel? 1 y 1).isSome = true ↔ (0 ≤ y ∧ y ≤ 7) ∧ 0 ≤ y ∧ y ≤ 3 := by
  obtain ⟨columns, hcolumns, hmem⟩ := Geometry.small_columns
  have hsound := Area.small_accepted.sound
  have hrun : ¬ Overflows (Area.small.generate.exec (Buffer.small.after [])).1 := by
    show ¬ Overflows (Area.small.generate.exec .small).1
    rw [Area.not_overflows_generate_iff hsound.hasCell hsound.narrow Buffer.small_fresh]
    refine ⟨⟨_, rfl⟩, columns, hcolumns, fun c _ =>
      ⟨Area.small_canFill _ c.kind, fun happlies => ?_⟩⟩
    rw [hsound.appliesTo_eq_false] at happlies
    cases happlies
  obtain ⟨first, columns', hexec, hcolumns', -, hends, hnew⟩ := plain_columns_end_at_surface
    ⟨.small, [], Area.small_accepted, rfl⟩ rfl rfl (by decide) (by decide) Buffer.small_new hrun
  have hc : ⟨1, 1, 1, 1, .plot⟩ ∈ columns' :=
    Except.ok.inj (hcolumns.symm.trans hcolumns') ▸ hmem
  exact ⟨first, hexec, (hends _ hc).block 3 (by decide) (by decide), hnew rfl _ hc⟩

end PlotGrid
