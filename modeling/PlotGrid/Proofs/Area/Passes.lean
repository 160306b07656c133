import PlotGrid.Proofs.Area.Columns
import PlotGrid.Proofs.Overlay.Stamping

/-!
# The content of the two passes

Both passes work column by column. What they write to a column follows from the column's kind and
position alone; in the first pass the overlay lies on top of the area's blocks. A pass overflows
only when a height that it needs is no coordinate.

- `Area.ground?`: the area's blocks in a column.
- `Area.part?`: what a pass takes from the overlay for a column.
- `Area.CanGenerate`, `Area.CanPopulate`: the passes do not overflow.
- `Area.generate_lays`, `Area.populate_lays`: the content that each pass lays over a buffer.
- `Area.exists_generate_atop`: the columns of any buffer after the first pass.
- `Area.exists_generate_eq`, `Area.exists_populate_eq`: the columns of a fresh buffer after a
  pass.
-/

namespace PlotGrid

/-- An overlay without fragments applies nowhere. -/
theorem Overlay.appliesTo_of_flags {o : Overlay} (hroad : o.hasRoad = false)
    (hplot : o.hasPlot = false) (kind : ColumnKind) : o.appliesTo kind = false := by
  cases kind with
  | road | wall => exact hroad
  | plot => exact hplot

namespace Area

/-! ## Columns -/

/-- The lowest height above the floor. -/
def lowest (a : Area) : Int :=
  if a.blocks.bedrock.isSome then a.geometry.minGen + 1 else a.geometry.minGen

/-- The cap of a wall. Roads from the overlay come without it. -/
def capAt? (a : Area) (y : Int) : Option Pattern :=
  if a.overlay.hasRoad = false ∧ a.geometry.wallHeight + 1 = y then some a.blocks.wall.pick
  else none

/-- The area's block at a height of a column of a kind. -/
def blockAt? (a : Area) (kind : ColumnKind) (y : Int) : Option Pattern :=
  match kind with
  | .road => if a.lowest ≤ y ∧ y ≤ a.geometry.roadHeight then some a.blocks.road.pick else none
  | .wall => (a.capAt? y).or
    (if a.lowest ≤ y ∧ y ≤ a.geometry.wallHeight then some a.blocks.wallFilling.pick else none)
  | .plot => (if a.geometry.plotHeight = y then some a.blocks.top.pick else none).or
    (if a.lowest ≤ y ∧ y ≤ a.geometry.plotHeight - 1 then some a.blocks.main.pick else none)

/-- The area's floor at a height. -/
def floorAt? (a : Area) (y : Int) : Option Pattern :=
  if a.geometry.minGen = y then a.blocks.bedrock.map .const else none

/-- What the first pass puts below the overlay. -/
def ground? (a : Area) (kind : ColumnKind) (y : Int) : Option Pattern :=
  (a.blockAt? kind y).or (a.floorAt? y)

/-- The overlay's voxel at a height of a column, where the overlay applies. -/
def overlayAt? (a : Area) (c : Column) (y : Int) : Option Voxel :=
  if a.overlay.appliesTo c.kind then
    a.overlay.cell? c.rx c.rz (y - a.overlay.anchors.schemY)
  else none

/-- What one pass takes from the overlay for a column. -/
def part? (a : Area) (entities : Bool) (c : Column) (y : Int) : Option Voxel :=
  if a.overlay.appliesTo c.kind then a.overlay.layer? entities c.rx c.rz y else none

/-- The biome of a column. -/
def biomeOf? (a : Area) (c : Column) : Option BiomeTag :=
  if a.overlay.appliesTo c.kind then a.overlay.biome? c.rx c.rz else none

/-- The columns of a frame. -/
def columns (a : Area) (F : Frame) : Checked (List Column) :=
  columnsOf a.geometry F.bottom F.width F.length

/-- Contents of all columns of a frame; the fault of columns that cannot be had is left to the
passes. -/
def columnwise (a : Area) (F : Frame) (content : Column → Content) : Content :=
  match a.columns F with
  | .ok columns => .stack (columns.map content)
  | .error _ => .empty

/-- What the first pass puts at a height of a column: the overlay on top of the area's blocks. -/
def firstAt? (a : Area) (F : Frame) (c : Column) (y : Int) : Option Voxel :=
  (a.part? false c y).or ((a.ground? c.kind y).map fun p => F.see p c.x y c.z)

/-- What the first pass lays over a column. -/
def generated (a : Area) (F : Frame) (c : Column) : Content :=
  F.column c.x c.z (a.firstAt? F c) (a.biomeOf? c)

/-- What the second pass lays over a column. -/
def populated (a : Area) (F : Frame) (c : Column) : Content :=
  F.column c.x c.z (a.part? true c) none

/-- The heights that the blocks of a column need are coordinates. -/
def CanFill (a : Area) (kind : ColumnKind) : Prop :=
  match kind with
  | .road => True
  | .wall => a.overlay.hasRoad = false → Coord.InRange (a.geometry.wallHeight + 1)
  | .plot => Coord.InRange (a.geometry.plotHeight - 1)

/-- The heights of what one pass takes from the overlay for a column are coordinates. -/
def CanTake (a : Area) (entities : Bool) (c : Column) : Prop :=
  a.overlay.appliesTo c.kind = true → a.overlay.CanStamp entities c.rx c.rz

variable {a : Area} {F : Frame} {c : Column}

theorem eq_lowest {n : Int} (h : a.aboveFloor = .ok n) : n = a.lowest := by
  unfold aboveFloor at h
  unfold lowest
  by_cases hbedrock : a.blocks.bedrock.isSome = true
  · rw [if_pos hbedrock] at h ⊢
    exact (Coord.add_eq_ok_iff.mp h).2
  · rw [if_neg hbedrock] at h ⊢
    exact (Except.ok.inj h).symm

theorem onlyOverflow_aboveFloor : OnlyOverflow a.aboveFloor := by
  unfold aboveFloor
  split
  · exact .add _ _
  · exact .ok _

theorem floorColumn_lays (hF : F.Narrow) (hcol : F.HasColumn c.x c.z) :
    Fill.Lays F True (a.floorColumn F.heights c) () (F.blocks c.x c.z a.floorAt?) := by
  unfold floorColumn
  cases hbedrock : a.blocks.bedrock with
  | none =>
    have hfloor : a.floorAt? = fun _ => none := by
      funext y
      rw [floorAt?, hbedrock]
      exact ite_self _
    rw [hfloor, Frame.blocks_none]
    exact Fill.Lays.pure ()
  | some v =>
    have hfloor : a.floorAt? = fun y =>
        if a.geometry.minGen = y then some (.const v) else none := by
      funext y
      rw [floorAt?, hbedrock]
      rfl
    rw [hfloor]
    exact HeightRange.put_lays hF hcol _ _

/-- The area's blocks in a column. -/
theorem fillColumn_lays (hF : F.Narrow) (hcol : F.HasColumn c.x c.z) :
    Fill.Lays F (a.CanFill c.kind) (a.fillColumn F.heights a.lowest c) ()
      (F.blocks c.x c.z (a.blockAt? c.kind)) := by
  have hfill (hi : Int) (p : Pattern) := HeightRange.fill_lays hF hcol a.lowest hi p
  have hput (y : Int) (p : Pattern) := HeightRange.put_lays hF hcol y p
  have hor := Frame.blocks_atop_blocks F c.x c.z
  unfold fillColumn
  cases hkind : c.kind with
  | road => exact hfill _ _
  | wall =>
    cases hroad : a.overlay.hasRoad with
    | true =>
      -- roads of the overlay bring their own top
      have hcap (y : Int) : a.capAt? y = none := if_neg fun h => by simp [hroad] at h
      have hblock : a.blockAt? .wall = fun y =>
          if a.lowest ≤ y ∧ y ≤ a.geometry.wallHeight then some a.blocks.wallFilling.pick
          else none := by
        funext y
        rw [blockAt?, hcap, Option.none_or]
      rw [hblock]
      exact ((hfill _ _).bind_pure ()).congr (by simp [CanFill, hroad])
    | false =>
      have hcap : a.capAt? = fun y =>
          if a.geometry.wallHeight + 1 = y then some a.blocks.wall.pick else none := by
        funext y
        simp [capAt?, hroad]
      have hblock : F.blocks c.x c.z (a.blockAt? .wall) = _ := (hor _ _).symm
      rw [hblock, hcap]
      -- the filling first, then the cap if its height is a coordinate
      refine ((hfill _ _).bind (Fill.Lays.lift_bind (P := True)
        (Frame.onlyFaults_canStop (.add _ _)) fun cap hcap => ?_)).congr
        (by simp [CanFill, hroad, Coord.add_eq_ok_iff])
      obtain ⟨-, rfl⟩ := Coord.add_eq_ok_iff.mp hcap
      exact hput _ _
  | plot =>
    have hblock : F.blocks c.x c.z (a.blockAt? .plot) = _ := (hor _ _).symm
    rw [hblock]
    refine (Fill.Lays.lift_bind (P := True) (Frame.onlyFaults_canStop (.sub _ _))
      fun below hbelow => ?_).congr
      (by simp [CanFill, Coord.sub_eq_ok_iff])
    obtain ⟨-, rfl⟩ := Coord.sub_eq_ok_iff.mp hbelow
    exact ((hfill _ _).bind (hput _ _)).congr (by simp)

/-- What the first pass takes from the overlay for a column. -/
theorem overlayColumn_lays (ho : a.overlay.Narrow) (hcol : F.HasColumn c.x c.z) :
    Fill.Lays F (a.CanTake false c) (a.overlayColumn F.heights c) ()
      (F.column c.x c.z (a.part? false c) (a.biomeOf? c)) := by
  unfold overlayColumn biomeOf? CanTake
  by_cases happlies : a.overlay.appliesTo c.kind = true
  · have hpart : a.part? false c = a.overlay.layer? false c.rx c.rz :=
      funext fun y => if_pos happlies
    rw [if_pos happlies, if_pos happlies, hpart]
    -- the voxels of the column first, then its biome
    have hstamp := Overlay.stamp_lays ho hcol false
    cases hbiome : a.overlay.biome? c.rx c.rz with
    | none => exact (hstamp.bind_pure ()).congr (by simp [happlies])
    | some tag =>
      have hcontent : F.column c.x c.z (a.overlay.layer? false c.rx c.rz) (some tag) =
          (F.column c.x c.z (fun _ => none) (some tag)).atop
            (F.column c.x c.z (a.overlay.layer? false c.rx c.rz) none) := by
        rw [Frame.column_atop_column]
        rfl
      rw [hcontent]
      have hbind := hstamp.bind (f := fun _ => do
        let _ ← Fill.biomeColumn c.x c.z tag) ((Fill.Lays.biomeColumn hcol tag).bind_pure ())
      exact hbind.congr (by simp [happlies])
  · have hpart : a.part? false c = fun _ => none := funext fun y => if_neg happlies
    rw [if_neg happlies, if_neg happlies, hpart, Frame.column_none]
    exact (Fill.Lays.pure ()).congr (by simp [happlies])

/-- **In the first pass the overlay lies on top of the area's blocks.** -/
theorem generateColumn_lays (hF : F.Narrow) (ho : a.overlay.Narrow) (hcol : F.HasColumn c.x c.z) :
    Fill.Lays F (a.CanFill c.kind ∧ a.CanTake false c) (a.generateColumn F.heights a.lowest c) ()
      (a.generated F c) := by
  -- the floor lies lowest, the overlay uppermost
  have hcontent : ((F.column c.x c.z (a.part? false c) (a.biomeOf? c)).atop
      (F.blocks c.x c.z (a.blockAt? c.kind))).atop (F.blocks c.x c.z a.floorAt?) =
      a.generated F c := by
    rw [Content.atop_assoc, Frame.blocks_atop_blocks, Frame.blocks, Frame.column_atop_column,
      Option.or_none]
    rfl
  rw [← hcontent]
  have hbind := (floorColumn_lays (a := a) hF hcol).bind (f := fun _ => do
    a.fillColumn F.heights a.lowest c
    a.overlayColumn F.heights c) ((fillColumn_lays hF hcol).bind (overlayColumn_lays ho hcol))
  exact hbind.congr (by simp)

/-! ## The first pass -/

/-- The area's biome in all columns. -/
def plainBiomes (a : Area) (F : Frame) : Content :=
  match a.biome with
  | none => .empty
  | some tag =>
    .stack ((positions F.width F.length).map fun place =>
      F.column place.1 place.2 (fun _ => none) (some tag))

theorem mem_positions {width length x z : Nat} :
    (x, z) ∈ positions width length ↔ x < width ∧ z < length := by
  simp [positions]

theorem generateBiomes_lays :
    Fill.Lays F True (a.generateBiomes F.width F.length) () (a.plainBiomes F) := by
  unfold generateBiomes plainBiomes
  cases a.biome with
  | none => exact Fill.Lays.pure ()
  | some tag =>
    have hplace (place : Nat × Nat) (hplace : place ∈ positions F.width F.length) :
        Fill.Lays F True (do let _ ← Fill.biomeColumn place.1 place.2 tag) ()
          (F.column place.1 place.2 (fun _ => none) (some tag)) :=
      (Fill.Lays.biomeColumn (mem_positions.mp hplace) tag).bind_pure ()
    exact (Fill.Lays.forM hplace).congr (by simp)

/-- The area's cell is not empty. -/
def HasCell (a : Area) : Prop :=
  0 < a.geometry.plotWidth + a.geometry.roadWidth

/-- Every place of a frame has one column. -/
theorem mem_columns_iff (ha : a.HasCell) (hF : F.Narrow) {columns : List Column}
    (hcolumns : a.columns F = .ok columns) :
    ∃ upper, a.geometry.pathUpper = .ok upper ∧ ∀ c, c ∈ columns ↔ F.HasColumn c.x c.z ∧
      c = a.geometry.columnOf (a.geometry.plotWidth + a.geometry.roadWidth) upper F.bottom c.x
        c.z := by
  obtain ⟨upper, -, hupper, hmem⟩ := mem_columnsOf_iff ha hF.width hF.length hcolumns
  refine ⟨upper, hupper, ?_⟩
  intro c
  rw [hmem]
  constructor
  · rintro ⟨x, z, hx, hz, rfl⟩
    exact ⟨⟨hx, hz⟩, rfl⟩
  · rintro ⟨⟨hx, hz⟩, hc⟩
    exact ⟨c.x, c.z, hx, hz, hc⟩

/-- The columns of a frame can be had unless a coordinate overflows or they are too many. -/
theorem onlyFaults_columns (ha : a.HasCell) (hF : F.Narrow) :
    OnlyFaults F.CanStop (a.columns F) :=
  fun _ => columnsOf_eq_error ha hF.width hF.length

theorem read_frame {b : Buffer} (hb : b.HasFrame F) :
    (b.bottom, b.width, b.length) = (F.bottom, F.width, F.length) := by
  have hdims := hb.voxels
  simp only [Cells.dims, Frame.dims, Prod.mk.injEq] at hdims
  rw [hb.bottom, Buffer.width, Buffer.length, hdims.1, hdims.2.1]

theorem read_heights {b : Buffer} (hb : b.HasFrame F) : HeightRange.ofBuffer b = F.heights := by
  rw [HeightRange.ofBuffer, hb.bottom, hb.top]
  rfl

/-- A condition on the columns of a frame, which can be had. -/
def OnColumns (a : Area) (F : Frame) (P : Column → Prop) : Prop :=
  ∃ columns, a.columns F = .ok columns ∧ ∀ c ∈ columns, P c

/-- The first pass does not overflow. -/
def CanGenerate (a : Area) (F : Frame) : Prop :=
  (∃ n, a.aboveFloor = .ok n) ∧ a.OnColumns F fun c => a.CanFill c.kind ∧ a.CanTake false c

/-- A loop over the columns of a frame. -/
theorem columns_bind_lays {α : Type} {P : Column → Prop} {f : List Column → Fill α} {r : α}
    {p : Content} (ha : a.HasCell) (hF : F.Narrow)
    (hf : ∀ columns, a.columns F = .ok columns →
      Fill.Lays F (∀ c ∈ columns, P c) (f columns) r p) :
    Fill.Lays F (a.OnColumns F P) (Fill.lift (a.columns F) >>= f) r p := by
  have hbind : Fill.Lays F _ (Fill.lift (a.columns F) >>= f) r p :=
    Fill.Lays.lift_bind (P := ∀ columns, a.columns F = .ok columns → ∀ c ∈ columns, P c)
      (onlyFaults_columns ha hF) fun columns hcolumns =>
        (hf columns hcolumns).congr (by simp [hcolumns])
  refine hbind.congr ⟨?_, ?_⟩
  · rintro ⟨⟨columns, hcolumns⟩, hP⟩
    exact ⟨columns, hcolumns, hP columns hcolumns⟩
  · rintro ⟨columns, hcolumns, hP⟩
    exact ⟨⟨columns, hcolumns⟩, fun columns' hcolumns' =>
      Except.ok.inj (hcolumns.symm.trans hcolumns') ▸ hP⟩

/-- **The first pass lays its content over a buffer.** -/
theorem generate_lays (ha : a.HasCell) (hF : F.Narrow) (ho : a.overlay.Narrow) :
    Fill.Lays F (a.CanGenerate F) a.generate ()
      ((a.columnwise F (a.generated F)).atop (a.plainBiomes F)) := by
  -- what the pass reads of the buffer is the same throughout the frame
  refine Fill.Lays.inspect_bind (fun b hb => read_frame hb)
    (Fill.Lays.inspect_bind (fun b hb => read_heights hb) ?_)
  have hcolumns : Fill.Lays F (a.OnColumns F fun c => a.CanFill c.kind ∧ a.CanTake false c)
      (Fill.lift (a.columns F) >>= fun columns =>
        columns.forM (a.generateColumn F.heights a.lowest)) ()
      (a.columnwise F (a.generated F)) := by
    refine columns_bind_lays ha hF ?_
    intro columns hcolumns
    obtain ⟨upper, -, hmem⟩ := mem_columns_iff ha hF hcolumns
    rw [columnwise, hcolumns]
    exact Fill.Lays.forM fun c hc => generateColumn_lays hF ho ((hmem c).mp hc).1
  refine Fill.Lays.lift_bind (Frame.onlyFaults_canStop onlyOverflow_aboveFloor) ?_
  intro lowest hlowest
  rw [eq_lowest hlowest]
  -- the biomes of the area lie below all columns
  exact (generateBiomes_lays.bind hcolumns).congr (by simp)

/-! ## The second pass -/

/-- The second pass does not overflow. -/
def CanPopulate (a : Area) (F : Frame) : Prop :=
  a.overlay.hasRoad = true ∨ a.overlay.hasPlot = true → a.OnColumns F (a.CanTake true)

/-- Whether the second pass writes to a column. -/
def populates (a : Area) (F : Frame) (c : Column) : Bool :=
  a.overlay.appliesTo c.kind && a.overlay.stamps F true c.rx c.rz

/-- Whether the second pass writes anything. -/
def populatesAny (a : Area) (F : Frame) : Bool :=
  match a.columns F with
  | .ok columns => columns.any (a.populates F)
  | .error _ => false

/-- A column without entities has nothing for the second pass. -/
theorem isEntity_of_hasEntity {o : Overlay} {rx rz i : Int} {v : Voxel}
    (h : ¬ o.hasEntity rx rz = true) (hv : o.cell? rx rz i = some v) : ¬ v.isEntity = true := by
  intro hentity
  refine h ?_
  unfold Overlay.hasEntity
  cases hcolumn : o.column? rx rz with
  | none =>
    rw [Overlay.cell?_eq_none_of_column? hcolumn] at hv
    cases hv
  | some column =>
    obtain ⟨n, -, hmem⟩ := (Overlay.cell?_eq_some_iff hcolumn).mp hv
    exact List.any_eq_true.mpr
      ⟨v, List.mem_filterMap.mpr ⟨some v, List.fst_mem_of_mem_zipIdx hmem, rfl⟩, hentity⟩

theorem populateColumn_lays (ho : a.overlay.Narrow) (hcol : F.HasColumn c.x c.z) :
    Fill.Lays F (a.CanTake true c) (a.populateColumn F.heights c) (a.populates F c)
      (a.populated F c) := by
  unfold populateColumn populates populated CanTake
  by_cases happlies : a.overlay.appliesTo c.kind = true
  · have hpart : a.part? true c = a.overlay.layer? true c.rx c.rz :=
      funext fun y => if_pos happlies
    rw [happlies, Bool.true_and, Bool.true_and, hpart]
    by_cases hentity : a.overlay.hasEntity c.rx c.rz = true
    · rw [if_pos hentity]
      exact (Overlay.stamp_lays ho hcol true).congr (by simp)
    · -- a column without entities is skipped, and the pass would take nothing from it
      have hlayer : a.overlay.layer? true c.rx c.rz = fun _ => none := by
        funext y
        refine Option.eq_none_iff_forall_ne_some.mpr ?_
        intro v hv
        obtain ⟨hcell, htagged⟩ := Overlay.layer?_eq_some_iff.mp hv
        exact isEntity_of_hasEntity hentity hcell htagged
      have hstamps : a.overlay.stamps F true c.rx c.rz = false := by
        refine Bool.eq_false_iff.mpr ?_
        intro h
        obtain ⟨y, v, -, hv⟩ := Overlay.stamps_iff.mp h
        rw [hlayer] at hv
        cases hv
      have hcan : a.overlay.CanStamp true c.rx c.rz := fun i v hv htagged =>
        absurd htagged (isEntity_of_hasEntity hentity hv)
      rw [if_neg hentity, hstamps, hlayer, Frame.column_none]
      exact (Fill.Lays.pure false).congr (by simp [hcan])
  · have hpart : a.part? true c = fun _ => none := funext fun y => if_neg happlies
    rw [Bool.eq_false_iff.mpr happlies, hpart, Frame.column_none]
    exact (Fill.Lays.pure false).congr (by simp)

/-- Without fragments there is nothing for the second pass. -/
theorem populated_of_flags (h : (!a.overlay.hasRoad && !a.overlay.hasPlot) = true) (c : Column) :
    a.populates F c = false ∧ a.populated F c = .empty := by
  rw [Bool.and_eq_true, Bool.not_eq_true', Bool.not_eq_true'] at h
  have happlies := Overlay.appliesTo_of_flags h.1 h.2 c.kind
  have hpart : a.part? true c = fun _ => none := by
    funext y
    rw [part?, happlies]
    rfl
  rw [populates, populated, happlies, hpart, Frame.column_none]
  exact ⟨rfl, rfl⟩

theorem columnwise_of_flags (h : (!a.overlay.hasRoad && !a.overlay.hasPlot) = true) :
    a.columnwise F (a.populated F) = .empty := by
  unfold columnwise
  cases a.columns F with
  | error fault => rfl
  | ok columns =>
    refine Content.stack_eq_empty ?_
    intro p hp
    obtain ⟨c, -, rfl⟩ := List.mem_map.mp hp
    exact (populated_of_flags h c).2

/-- **The second pass lays its content over a buffer.** -/
theorem populate_lays (ha : a.HasCell) (hF : F.Narrow) (ho : a.overlay.Narrow) :
    Fill.Lays F (a.CanPopulate F) a.populate (a.populatesAny F)
      (a.columnwise F (a.populated F)) := by
  unfold populate CanPopulate
  by_cases hflags : (!a.overlay.hasRoad && !a.overlay.hasPlot) = true
  · -- without fragments the pass does not look at the columns
    have hany : a.populatesAny F = false := by
      unfold populatesAny
      cases a.columns F with
      | error fault => rfl
      | ok columns =>
        exact List.any_eq_false.mpr fun c _ => by simp [(populated_of_flags hflags c).1]
    rw [if_pos hflags, hany, columnwise_of_flags hflags]
    exact (Fill.Lays.pure false).congr (by simp_all)
  · have happlies : a.overlay.hasRoad = true ∨ a.overlay.hasPlot = true := by
      cases hroad : a.overlay.hasRoad <;> cases hplot : a.overlay.hasPlot <;> simp_all
    rw [if_neg hflags]
    refine Fill.Lays.inspect_bind (fun b hb => read_frame hb)
      (Fill.Lays.inspect_bind (fun b hb => read_heights hb) ?_)
    have hcolumns : Fill.Lays F (a.OnColumns F (a.CanTake true))
        (Fill.lift (a.columns F) >>= fun columns => columns.foldlM (fun wrote c => do
          return (← a.populateColumn F.heights c) || wrote) false)
        (a.populatesAny F) (a.columnwise F (a.populated F)) := by
      refine columns_bind_lays ha hF ?_
      intro columns hcolumns
      obtain ⟨upper, -, hmem⟩ := mem_columns_iff ha hF hcolumns
      have hloop := Fill.Lays.foldlM_or (fun c hc =>
        populateColumn_lays (a := a) ho ((hmem c).mp hc).1) false
      rw [populatesAny, columnwise, hcolumns]
      rw [Bool.or_false] at hloop
      exact hloop
    exact hcolumns.congr (by simp [happlies])

/-! ## Columns after a pass -/

section Columns

variable {columns : List Column}

/-- Two columns at one place are equal. -/
theorem column_ext (ha : a.HasCell) (hF : F.Narrow) (hcolumns : a.columns F = .ok columns)
    {c' : Column} (hc : c ∈ columns) (hc' : c' ∈ columns) (hx : c'.x = c.x) (hz : c'.z = c.z) :
    c' = c := by
  obtain ⟨upper, -, hmem⟩ := mem_columns_iff ha hF hcolumns
  rw [((hmem c).mp hc).2, ((hmem c').mp hc').2, hx, hz]

/-- Every place has a column. -/
theorem exists_column (ha : a.HasCell) (hF : F.Narrow) (hcolumns : a.columns F = .ok columns)
    {x z : Nat} (hcol : F.HasColumn x z) : ∃ c ∈ columns, c.x = x ∧ c.z = z := by
  obtain ⟨upper, -, hmem⟩ := mem_columns_iff ha hF hcolumns
  exact ⟨a.geometry.columnOf _ upper F.bottom x z, (hmem _).mpr ⟨hcol, rfl⟩, rfl, rfl⟩

/-- A column shows what is laid over it and nothing of the other columns. -/
theorem map_columnwise {α : Type} (f : Content → Option α) (hempty : f .empty = none)
    (hatop : ∀ p q, f (p.atop q) = (f p).or (f q)) (ha : a.HasCell) (hF : F.Narrow)
    (hcolumns : a.columns F = .ok columns) (hc : c ∈ columns) {content : Column → Content}
    (hother : ∀ c', ¬ (c'.x = c.x ∧ c'.z = c.z) → f (content c') = none) :
    f (a.columnwise F content) = f (content c) := by
  rw [columnwise, hcolumns]
  refine Content.map_stack_eq f hempty hatop hc fun c' hc' hne => hother c' fun h => hne ?_
  exact column_ext ha hF hcolumns hc hc' h.1 h.2

theorem voxel_columnwise (ha : a.HasCell) (hF : F.Narrow) (hcolumns : a.columns F = .ok columns)
    (p : Column → Int → Option Voxel) (t : Column → Option BiomeTag) (hc : c ∈ columns) (y : Int) :
    (a.columnwise F fun c => F.column c.x c.z (p c) (t c)).voxel c.x y c.z =
      if F.HasHeight y then p c y else none := by
  rw [map_columnwise (fun q => q.voxel c.x y c.z) rfl (fun _ _ => rfl) ha hF hcolumns hc
    fun c' hne => if_neg fun h => hne ⟨h.1, h.2.1⟩]
  simp only [Frame.column, true_and]

theorem biome_columnwise (ha : a.HasCell) (hF : F.Narrow) (hcolumns : a.columns F = .ok columns)
    (p : Column → Int → Option Voxel) (t : Column → Option BiomeTag) (hc : c ∈ columns) (y : Int) :
    (a.columnwise F fun c => F.column c.x c.z (p c) (t c)).biome c.x y c.z =
      if F.HasHeight y ∧ F.tracks then t c else none := by
  rw [map_columnwise (fun q => q.biome c.x y c.z) rfl (fun _ _ => rfl) ha hF hcolumns hc
    fun c' hne => if_neg fun h => hne ⟨h.1, h.2.1⟩]
  simp only [Frame.column, true_and]

/-- What is laid over all columns is found in one of them. -/
theorem voxel_columnwise_eq_some_iff (ha : a.HasCell) (hF : F.Narrow)
    (hcolumns : a.columns F = .ok columns) (p : Column → Int → Option Voxel)
    (t : Column → Option BiomeTag) {x z : Nat} {y : Int} {v : Voxel} :
    (a.columnwise F fun c => F.column c.x c.z (p c) (t c)).voxel x y z = some v ↔
      ∃ c ∈ columns, c.x = x ∧ c.z = z ∧ F.HasHeight y ∧ p c y = some v := by
  by_cases hplace : ∃ c ∈ columns, c.x = x ∧ c.z = z
  · obtain ⟨c, hc, rfl, rfl⟩ := hplace
    rw [voxel_columnwise ha hF hcolumns p t hc, Option.ite_none_right_eq_some]
    constructor
    · exact fun h => ⟨c, hc, rfl, rfl, h⟩
    · rintro ⟨c', hc', hx, hz, h⟩
      rw [column_ext ha hF hcolumns hc hc' hx hz] at h
      exact h
  · -- outside of the buffer no column shows anything
    have hnone : (a.columnwise F fun c => F.column c.x c.z (p c) (t c)).voxel x y z = none := by
      rw [columnwise, hcolumns]
      refine Content.map_stack_eq_none (fun q => q.voxel x y z) rfl (fun _ _ => rfl) fun c hc => ?_
      exact if_neg fun h => hplace ⟨c, hc, h.1, h.2.1⟩
    rw [hnone]
    constructor
    · intro h
      cases h
    · rintro ⟨c, hc, hx, hz, -⟩
      exact absurd ⟨c, hc, hx, hz⟩ hplace

theorem voxel_plainBiomes (x : Nat) (y : Int) (z : Nat) :
    (a.plainBiomes F).voxel x y z = none := by
  unfold plainBiomes
  cases a.biome with
  | none => rfl
  | some tag =>
    exact Content.map_stack_eq_none (fun q => q.voxel x y z) rfl (fun _ _ => rfl) fun _ _ =>
      ite_self _

/-- Every column has the area's biome. -/
theorem biome_plainBiomes {x z : Nat} (hcol : F.HasColumn x z) (y : Int) :
    (a.plainBiomes F).biome x y z = if F.HasHeight y ∧ F.tracks then a.biome else none := by
  unfold plainBiomes
  cases a.biome with
  | none => exact (ite_self _).symm
  | some tag =>
    dsimp only
    rw [Content.map_stack_eq (fun q => q.biome x y z) rfl (fun _ _ => rfl)
      (mem_positions.mpr hcol) fun place _ hne => ?_]
    · simp only [Frame.column, true_and]
    · exact if_neg fun h => hne (Prod.ext h.1 h.2.1)

end Columns

/-! ## The first pass over any buffer -/

/-- **What a buffer held before the first pass** stays where the pass writes nothing. -/
theorem exists_generate_atop {b : Buffer} (ha : a.HasCell) (hF : F.Narrow) (ho : a.overlay.Narrow)
    (hb : b.HasFrame F) (hrun : ¬ Overflows (a.generate.exec b).1) :
    ∃ first columns, a.generate.exec b = (.ok (), first) ∧ a.columns F = .ok columns ∧
      ∀ c ∈ columns, ∀ y, first.voxel? c.x y c.z =
        (if F.HasHeight y then a.firstAt? F c y else none).or (b.voxel? c.x y c.z) := by
  rcases generate_lays ha hF ho b hb with ⟨hcan, first, hexec, -, hcontent⟩ |
    ⟨-, fault, first, hexec, hstop⟩
  · obtain ⟨-, columns, hcolumns, -⟩ := hcan
    refine ⟨first, columns, hexec, hcolumns, fun c hc y => ?_⟩
    show first.content.voxel c.x y c.z = _
    rw [hcontent]
    show Option.or (Option.or ((a.columnwise F (a.generated F)).voxel c.x y c.z)
      ((a.plainBiomes F).voxel c.x y c.z)) _ = _
    rw [voxel_plainBiomes, Option.or_none]
    unfold generated
    rw [voxel_columnwise ha hF hcolumns (a.firstAt? F) a.biomeOf? hc]
    rfl
  · exact absurd ⟨fault, congrArg Prod.fst hexec, hstop.isOverflow⟩ hrun

/-! ## Both passes over a fresh buffer -/

variable {b : Buffer} {columns : List Column}

theorem not_overflows_generate_iff (ha : a.HasCell) (ho : a.overlay.Narrow) (hb : b.Fresh) :
    ¬ Overflows (a.generate.exec b).1 ↔ a.CanGenerate b.frame :=
  Fill.Lays.not_overflows_exec_iff hb (generate_lays ha hb.narrow ho)

theorem not_overflows_populate_iff (ha : a.HasCell) (ho : a.overlay.Narrow) (hb : b.Fresh) :
    ¬ Overflows (a.populate.exec b).1 ↔ a.CanPopulate b.frame :=
  Fill.Lays.not_overflows_exec_iff hb (populate_lays ha hb.narrow ho)

/-- **After the first pass** every column shows the overlay on top of the area's blocks. -/
theorem exists_generate_eq (ha : a.HasCell) (ho : a.overlay.Narrow) (hb : b.Fresh)
    (hcan : a.CanGenerate b.frame) (hcolumns : a.columns b.frame = .ok columns) :
    ∃ first, a.generate.exec b = (.ok (), first) ∧
      (∀ c ∈ columns, ∀ y, b.HasHeight y → first.voxel? c.x y c.z = a.firstAt? b.frame c y) ∧
      ∀ x y z v, first.voxel? x y z = some v ↔ ∃ c ∈ columns, c.x = x ∧ c.z = z ∧
        b.HasHeight y ∧ a.firstAt? b.frame c y = some v := by
  obtain ⟨first, hexec, hcontent⟩ :=
    Fill.Lays.exists_exec_eq hb (generate_lays ha hb.narrow ho) hcan
  have hvoxel (x : Nat) (y : Int) (z : Nat) : first.voxel? x y z =
      (a.columnwise b.frame (a.generated b.frame)).voxel x y z := by
    show first.content.voxel x y z = _
    rw [hcontent]
    show Option.or _ ((a.plainBiomes b.frame).voxel x y z) = _
    rw [voxel_plainBiomes, Option.or_none]
  refine ⟨first, hexec, fun c hc y hy => ?_, fun x y z v => ?_⟩
  · rw [hvoxel]
    exact (voxel_columnwise ha hb.narrow hcolumns (a.firstAt? b.frame) a.biomeOf? hc y).trans
      (if_pos hy)
  · rw [hvoxel]
    exact voxel_columnwise_eq_some_iff ha hb.narrow hcolumns (a.firstAt? b.frame) a.biomeOf?

/-- **After the second pass** every column shows the entity voxels of the overlay. -/
theorem exists_populate_eq (ha : a.HasCell) (ho : a.overlay.Narrow) (hb : b.Fresh)
    (hcan : a.CanPopulate b.frame) (hcolumns : a.columns b.frame = .ok columns) :
    ∃ second, a.populate.exec b = (.ok (a.populatesAny b.frame), second) ∧
      ∀ x y z v, second.voxel? x y z = some v ↔ ∃ c ∈ columns, c.x = x ∧ c.z = z ∧
        b.HasHeight y ∧ a.part? true c y = some v := by
  obtain ⟨second, hexec, hcontent⟩ :=
    Fill.Lays.exists_exec_eq hb (populate_lays ha hb.narrow ho) hcan
  refine ⟨second, hexec, ?_⟩
  intro x y z v
  show second.content.voxel x y z = some v ↔ _
  rw [hcontent]
  exact voxel_columnwise_eq_some_iff ha hb.narrow hcolumns (a.part? true) fun _ => none

/-- The second pass writes something iff a column has an entity voxel for it. -/
theorem populatesAny_iff (hcolumns : a.columns b.frame = .ok columns) :
    a.populatesAny b.frame = true ↔
      ∃ c ∈ columns, ∃ y v, b.HasHeight y ∧ a.part? true c y = some v := by
  rw [populatesAny, hcolumns]
  dsimp only
  rw [List.any_eq_true]
  refine exists_congr fun c => and_congr_right ?_
  intro _
  rw [populates, Bool.and_eq_true, Overlay.stamps_iff]
  constructor
  · rintro ⟨happlies, y, v, hy, hv⟩
    exact ⟨y, v, hy, (if_pos happlies).trans hv⟩
  · rintro ⟨y, v, hy, hv⟩
    rw [part?, Option.ite_none_right_eq_some] at hv
    exact ⟨hv.1, y, v, hy, hv.2⟩

/-- One pass takes from the overlay the voxels that have a rotation tag, the other the rest. -/
theorem part?_eq_some_iff {entities : Bool} {y : Int} {v : Voxel} :
    a.part? entities c y = some v ↔ a.overlayAt? c y = some v ∧ v.isEntity = entities := by
  rw [part?, overlayAt?, Option.ite_none_right_eq_some, Option.ite_none_right_eq_some,
    Overlay.layer?_eq_some_iff, and_assoc]

end Area

end PlotGrid
