import PlotGrid.Proofs.Area.Spots
import PlotGrid.Service.Chunk

/-!
# The two passes split an overlay

The first pass shows the voxels of the overlay that have no rotation tag on top of what the area
has without fragments; the second pass writes those that have one. So every voxel of the overlay
is written by exactly one of them.

- `Area.ground?_variant`: below the overlay only the caps of walls depend on it.
- `Area.of_ground?_eq_some`: below it are the area's buckets and its floor.
- `Area.isEntity_ground`: the area's own blocks carry no tags.
- `Service.exec_populate`: the answer to a request for the second pass.
- `passes_split_overlay`: what the passes leave in a new buffer.
-/

namespace PlotGrid

namespace Area

variable {a a₀ : Area} {F : Frame} {c : Column} {y : Int}

/-! ## Below the overlay -/

/-- **Below the overlay only the caps of walls depend on it.** -/
theorem ground?_variant (h : a₀.Sound) (ha : a.VariantOf a₀) (kind : ColumnKind) (y : Int) :
    a.ground? kind y =
      if a.overlay.hasRoad = true ∧ kind = .wall ∧ y = a.geometry.wallHeight + 1 then none
      else a₀.ground? kind y := by
  have hwall := h.geometry.wall
  have hroad₀ : a₀.overlay.hasRoad = false := h.appliesTo_eq_false .wall
  have hlowest : a.lowest = a₀.lowest := by
    rw [lowest, lowest, ha.geometry_eq, ha.blocks_eq]
  have hfloor : a.floorAt? y = a₀.floorAt? y := by
    rw [floorAt?, floorAt?, ha.geometry_eq, ha.blocks_eq]
  rw [ground?, ground?, hfloor, ha.geometry_eq]
  cases kind with
  | road =>
    have hblock : a.blockAt? .road y = a₀.blockAt? .road y := by
      rw [blockAt?, blockAt?, hlowest, ha.geometry_eq, ha.blocks_eq]
    rw [if_neg (by simp), hblock]
  | plot =>
    have hblock : a.blockAt? .plot y = a₀.blockAt? .plot y := by
      rw [blockAt?, blockAt?, hlowest, ha.geometry_eq, ha.blocks_eq]
    rw [if_neg (by simp), hblock]
  | wall =>
    by_cases hgap : a.overlay.hasRoad = true ∧ y = a₀.geometry.wallHeight + 1
    · -- neither the filling of the wall nor the floor reaches the height of the cap
      obtain ⟨hroad, rfl⟩ := hgap
      have hcap : a.capAt? (a₀.geometry.wallHeight + 1) = none := by
        simp [capAt?, hroad]
      rw [if_pos ⟨hroad, rfl, rfl⟩, blockAt?, hcap, ha.geometry_eq, if_neg (by omega), floorAt?,
        if_neg (by omega)]
      rfl
    · have hcap : a.capAt? y = a₀.capAt? y := by
        rw [capAt?, capAt?, hroad₀, ha.geometry_eq, ha.blocks_eq]
        refine ite_congr (propext ⟨fun h => ⟨rfl, h.2⟩, fun h => ⟨?_, h.2⟩⟩) (fun _ => rfl)
          fun _ => rfl
        exact Bool.eq_false_iff.mpr fun hroad => hgap ⟨hroad, h.2.symm⟩
      rw [if_neg fun h => hgap ⟨h.1, h.2.2⟩, blockAt?, blockAt?, hcap, hlowest, ha.geometry_eq,
        ha.blocks_eq]

/-- What lies below the overlay is of one of the area's buckets or of its floor. -/
theorem of_ground?_eq_some {kind : ColumnKind} {p : Pattern} (hp : a.ground? kind y = some p) :
    (∃ bucket ∈ a.blocks.buckets, p = bucket.pick) ∨
      ∃ v, a.blocks.bedrock = some v ∧ p = .const v := by
  rw [ground?, Option.or_eq_some_iff] at hp
  rcases hp with hblock | ⟨-, hfloor⟩
  · left
    simp only [AreaBlocks.buckets, List.mem_cons, List.not_mem_nil, or_false, exists_eq_or_imp,
      exists_eq_left]
    cases kind <;> simp only [blockAt?, capAt?, Option.or_eq_some_iff,
      Option.ite_none_right_eq_some, Option.some.injEq] at hblock <;> grind
  · rw [floorAt?, Option.ite_none_right_eq_some, Option.map_eq_some_iff] at hfloor
    obtain ⟨-, v, hv, rfl⟩ := hfloor
    exact .inr ⟨v, hv, rfl⟩

/-- The area's own blocks carry no tags. -/
theorem isEntity_ground (h : a.blocks.Plain) {kind : ColumnKind} {p : Pattern}
    (hp : a.ground? kind y = some p) (absX absY absZ : Int) :
    (p absX absY absZ).isEntity = false := by
  rcases of_ground?_eq_some hp with ⟨bucket, hbucket, rfl⟩ | ⟨v, hv, rfl⟩
  · exact Bucket.isEntity_pick (h.of_mem_buckets hbucket) ..
  · exact h.bedrock v hv

/-! ## The overlay on top -/

/-- Where the overlay has a voxel without a tag the first pass shows it. -/
theorem firstAt?_of_untagged {v : Voxel} (hv : a.overlayAt? c y = some v)
    (huntagged : v.isEntity = false) : a.firstAt? F c y = some v := by
  rw [firstAt?, part?_eq_some_iff.mpr ⟨hv, huntagged⟩, Option.some_or]

/-- Elsewhere the first pass shows what is below the overlay. -/
theorem firstAt?_of_tagged (h : ∀ v, a.overlayAt? c y = some v → v.isEntity = true) :
    a.firstAt? F c y = (a.ground? c.kind y).map fun p => F.see p c.x y c.z := by
  have hpart : a.part? false c y = none := by
    refine Option.eq_none_iff_forall_ne_some.mpr ?_
    intro v hv
    obtain ⟨hv, huntagged⟩ := part?_eq_some_iff.mp hv
    rw [h v hv] at huntagged
    cases huntagged
  rw [firstAt?, hpart, Option.none_or]

/-- The first pass shows no voxel with a tag. -/
theorem isEntity_firstAt (h : a.blocks.Plain) {v : Voxel} (hv : a.firstAt? F c y = some v) :
    v.isEntity = false := by
  rw [firstAt?, Option.or_eq_some_iff, Option.map_eq_some_iff] at hv
  rcases hv with hpart | ⟨-, p, hp, rfl⟩
  · exact (part?_eq_some_iff.mp hpart).2
  · exact isEntity_ground h hp ..

/-- A first pass that does not overflow does not overflow without fragments either, if the caps of
walls have a height. -/
theorem canGenerate_of_variant (h : a₀.Sound) (ha : a.VariantOf a₀)
    (hcap : Coord.InRange (a.geometry.wallHeight + 1)) (hcan : a.CanGenerate F) :
    a₀.CanGenerate F := by
  obtain ⟨hfloor, columns, hcolumns, hall⟩ := hcan
  rw [aboveFloor, ha.geometry_eq, ha.blocks_eq] at hfloor
  rw [Area.columns, ha.geometry_eq] at hcolumns
  -- without fragments the caps of walls are the only new heights
  refine ⟨hfloor, columns, hcolumns, fun c hc => ⟨?_, fun happlies => ?_⟩⟩
  · have hfill := (hall c hc).1
    rw [ha.geometry_eq] at hcap
    cases hkind : c.kind with
    | road => trivial
    | wall => exact fun _ => hcap
    | plot =>
      rw [hkind, CanFill, ha.geometry_eq] at hfill
      exact hfill
  · rw [h.appliesTo_eq_false] at happlies
    cases happlies

end Area

/-! ## Requests for the second pass -/

/-- The answer to a request for the second pass, if the area's own second pass has a result. -/
theorem Service.exec_populate {s : Service} {world : World} {cx cz : Int} {a : Area}
    {b second : Buffer} {wrote : Bool} (hgenerator : s.generator = .hybrid)
    (harea : s.atlas.forChunk? world.name cx cz = some a)
    (hbuffer : Buffer.forChunk? cx cz world.minHeight world.maxHeight false = .ok b)
    (hrun : a.populate.exec b = (.ok wrote, second)) :
    (s.populate world cx cz).exec = (.ok (if wrote then some second else none), #[]) := by
  have hgenerator : s.generator.populate a = a.populate := by
    rw [hgenerator]
    rfl
  rw [populate, harea]
  show (s.populateIn a world cx cz).run #[] = _
  rw [populateIn, Checked.run_bind, Logged.run_ofExcept, hbuffer]
  dsimp only
  rw [hgenerator, hrun]
  rfl

/-! ## The split -/

/-- **The two passes split an overlay.** Let fragments of any size be installed in an area that
was made from a configuration, and let neither pass overflow over a new buffer; the buffers of
chunks are new by `Buffer.forChunk?_eq_ok`.

The first pass shows the overlay's voxels without a tag where the overlay applies. Everywhere else
it shows what it shows without fragments, except that walls have no caps if the overlay has roads.
The second pass writes exactly the overlay's voxels with a tag. So the first pass never leaves a
tag and the second nothing else, each voxel of the overlay is written by exactly one of the two,
and a request for the second pass is answered with a buffer iff there is such a voxel. -/
theorem passes_split_overlay {a₀ a : Area} {f : Fragments} {summary : OverlaySummary}
    {notices : Array Notice} {bottom top : BlockPos} {track : Bool} {b : Buffer}
    (haccepted : a₀.Accepted)
    (hinstall : (a₀.install f).exec = (.ok (a, summary), notices))
    (hbottom : bottom.InRange) (htop : top.InRange)
    (hnew : Buffer.new? bottom top track = .ok b)
    (hfirst : ¬ Overflows (a.generate.exec b).1)
    (hsecond : ¬ Overflows (a.populate.exec b).1) :
    ∃ first second wrote columns,
      a.generate.exec b = (.ok (), first) ∧
      a.populate.exec b = (.ok wrote, second) ∧
      columnsOf a.geometry b.bottom b.width b.length = .ok columns ∧
      (∀ x z, x < b.width ∧ z < b.length ↔ ∃ c ∈ columns, c.x = x ∧ c.z = z) ∧
      (∀ c ∈ columns, ∀ c' ∈ columns, c'.x = c.x → c'.z = c.z → c' = c) ∧
      -- the first pass
      (∀ c ∈ columns, ∀ y v, b.HasHeight y → a.overlayAt? c y = some v → v.isEntity = false →
        first.voxel? c.x y c.z = some v) ∧
      (Coord.InRange (a.geometry.wallHeight + 1) →
        ¬ Overflows (a₀.generate.exec b).1) ∧
      (¬ Overflows (a₀.generate.exec b).1 →
        ∃ plain, a₀.generate.exec b = (.ok (), plain) ∧
          ∀ c ∈ columns, ∀ y, b.HasHeight y →
            (∀ v, a.overlayAt? c y = some v → v.isEntity = true) →
            first.voxel? c.x y c.z =
              if a.overlay.hasRoad = true ∧ c.kind = .wall ∧ y = a.geometry.wallHeight + 1
              then none else plain.voxel? c.x y c.z) ∧
      -- the second pass
      (∀ x y z v, second.voxel? x y z = some v ↔ ∃ c ∈ columns, c.x = x ∧ c.z = z ∧
        b.HasHeight y ∧ a.overlayAt? c y = some v ∧ v.isEntity = true) ∧
      -- both passes
      (∀ x y z v, first.voxel? x y z = some v → v.isEntity = false) ∧
      (∀ x y z v, second.voxel? x y z = some v → v.isEntity = true) ∧
      (∀ c ∈ columns, ∀ y v, b.HasHeight y → a.overlayAt? c y = some v →
        (first.voxel? c.x y c.z = some v ↔ ¬ second.voxel? c.x y c.z = some v)) ∧
      -- requests for the second pass
      (wrote = true ↔ ∃ c ∈ columns, ∃ y v, b.HasHeight y ∧ a.overlayAt? c y = some v ∧
        v.isEntity = true) ∧
      (∀ (s : Service) (world : World) (cx cz : Int), s.generator = .hybrid →
        s.atlas.forChunk? world.name cx cz = some a →
        Buffer.forChunk? cx cz world.minHeight world.maxHeight false = .ok b →
        (s.populate world cx cz).exec = (.ok (if wrote then some second else none), #[])) := by
  have hsound := haccepted.sound
  have hb := Buffer.fresh_of_new? hbottom htop hnew
  obtain ⟨hvariant, reports, hbuild⟩ := Area.install_eq_ok hinstall
  have ho := Overlay.narrow_of_build hbuild
  have ha : a.HasCell := by
    rw [Area.HasCell, hvariant.geometry_eq]
    exact hsound.hasCell
  have hblocks : a.blocks.Plain := hvariant.blocks_eq ▸ hsound.blocks
  rw [Area.not_overflows_generate_iff ha ho hb] at hfirst
  rw [Area.not_overflows_populate_iff ha ho hb] at hsecond
  rw [Area.not_overflows_generate_iff hsound.hasCell hsound.narrow hb]
  -- both passes go through the same columns
  obtain ⟨columns, hcolumns, -⟩ := hfirst.2
  obtain ⟨first, hgenerate, hfirstAt, hfirstIff⟩ :=
    Area.exists_generate_eq ha ho hb hfirst hcolumns
  obtain ⟨second, hpopulate, hsecondIff⟩ := Area.exists_populate_eq ha ho hb hsecond hcolumns
  simp only [Area.part?_eq_some_iff] at hsecondIff
  have huntagged (x : Nat) (y : Int) (z : Nat) (v : Voxel)
      (hv : first.voxel? x y z = some v) : v.isEntity = false := by
    obtain ⟨c, -, -, -, -, hv⟩ := (hfirstIff x y z v).mp hv
    exact Area.isEntity_firstAt hblocks hv
  have htagged (x : Nat) (y : Int) (z : Nat) (v : Voxel)
      (hv : second.voxel? x y z = some v) : v.isEntity = true := by
    obtain ⟨c, -, -, -, -, -, hv⟩ := (hsecondIff x y z v).mp hv
    exact hv
  have hshown (c : Column) (hc : c ∈ columns) (y : Int) (v : Voxel) (hy : b.HasHeight y)
      (hv : a.overlayAt? c y = some v) (hplain : v.isEntity = false) :
      first.voxel? c.x y c.z = some v := by
    rw [hfirstAt c hc y hy]
    exact Area.firstAt?_of_untagged hv hplain
  refine ⟨first, second, _, columns, hgenerate, hpopulate, hcolumns, fun x z => ?_,
    fun c hc c' hc' => Area.column_ext ha hb.narrow hcolumns hc hc', hshown,
    fun hcap => Area.canGenerate_of_variant hsound hvariant hcap hfirst, fun hplain => ?_,
    hsecondIff, huntagged, htagged, fun c hc y v hy hv => ?_, ?_,
    fun s world cx cz hs harea hbuffer => Service.exec_populate hs harea hbuffer hpopulate⟩
  · -- every place of the buffer has a column
    obtain ⟨upper, -, hmem⟩ := Area.mem_columns_iff ha hb.narrow hcolumns
    constructor
    · exact fun hcol => Area.exists_column ha hb.narrow hcolumns hcol
    · rintro ⟨c, hc, rfl, rfl⟩
      exact ((hmem c).mp hc).1
  · -- without fragments the columns are the same
    have hcolumns₀ : a₀.columns b.frame = .ok columns := by
      rw [Area.columns, ← hvariant.geometry_eq]
      exact hcolumns
    obtain ⟨plain, hexec, hplainAt, -⟩ :=
      Area.exists_generate_eq hsound.hasCell hsound.narrow hb hplain hcolumns₀
    refine ⟨plain, hexec, ?_⟩
    intro c hc y hy hnone
    have hblank (v : Voxel) (hv : a₀.overlayAt? c y = some v) : v.isEntity = true := by
      rw [Area.overlayAt?, hsound.appliesTo_eq_false] at hv
      cases hv
    rw [hfirstAt c hc y hy, hplainAt c hc y hy, Area.firstAt?_of_tagged hnone,
      Area.firstAt?_of_tagged hblank, Area.ground?_variant hsound hvariant]
    split <;> rfl
  · constructor
    · intro hv' hv''
      have hfalse := huntagged _ _ _ _ hv'
      rw [htagged _ _ _ _ hv''] at hfalse
      cases hfalse
    · intro hnot
      refine hshown c hc y v hy hv (Bool.eq_false_iff.mpr fun hentity => hnot ?_)
      exact (hsecondIff _ _ _ _).mpr ⟨c, hc, rfl, rfl, hy, hv, hentity⟩
  · rw [Area.populatesAny_iff hcolumns]
    simp only [Area.part?_eq_some_iff]

/-- On a small cell the first pass leaves the post and the second the sign on top of it. -/
theorem passes_split_small : ∃ a summary notices first second,
    (Area.small.install .small).exec = (.ok (a, summary), notices) ∧
      a.generate.exec .small = (.ok (), first) ∧ a.populate.exec .small = (.ok true, second) ∧
      (first.voxel? 1 3 1 = some ⟨⟨1, 0⟩, none⟩ ∧ second.voxel? 1 3 1 ≠ some ⟨⟨1, 0⟩, none⟩) ∧
      first.voxel? 1 4 1 ≠ some ⟨⟨2, 0⟩, some 4⟩ ∧ second.voxel? 1 4 1 = some ⟨⟨2, 0⟩, some 4⟩ := by
  obtain ⟨o, reports, hbuild⟩ := Area.small_build
  obtain ⟨notices, hinstall⟩ := Area.exists_install_eq (a := .small) hbuild
  obtain ⟨hfirst, hsecond⟩ := Area.small_runs hbuild
  obtain ⟨hpost, hsign⟩ := Area.small_overlayAt? hbuild
  obtain ⟨first, second, wrote, columns, hgenerate, hpopulate, hcolumns, -, -, hshown, -, -,
    hentities, huntagged, -, hone, hwrote, -⟩ := passes_split_overlay Area.small_accepted
      hinstall (by decide) (by decide) Buffer.small_new hfirst hsecond
  obtain ⟨columns', hcolumns', hc⟩ := Geometry.small_columns
  rw [← Except.ok.inj (hcolumns.symm.trans hcolumns')] at hc
  rw [hwrote.mpr ⟨_, hc, 4, _, by decide, hsign, rfl⟩] at hpopulate
  have hbelow := hshown _ hc 3 _ (by decide) hpost rfl
  exact ⟨_, _, notices, first, second, hinstall, hgenerate, hpopulate,
    ⟨hbelow, (hone _ hc 3 _ (by decide) hpost).mp hbelow⟩,
    fun h => Bool.noConfusion (huntagged 1 4 1 _ h),
    (hentities 1 4 1 _).mpr ⟨_, hc, rfl, rfl, by decide, hsign, rfl⟩⟩

end PlotGrid
