import PlotGrid.Proofs.Area.Plain

/-!
# The floor and the ceiling

Where the overlay is empty, the first pass lays the area's blocks over whatever a buffer held. They
are between the floor and the ceiling of the area and leave a floor of bedrock alone, up to one
exception on either side: the surface of a plot may be the floor itself, and then it replaces the
bedrock; and the cap of a wall that reaches to the ceiling stands one above it.

- `Area.exists_generate_ground`: the first pass with an empty overlay.
- `Area.ground?_minGen`: the area's block on the floor.
- `Area.CapsAbove`, `Area.ground?_outside`: the area's blocks below the floor and above the ceiling.
- `bedrock_lies_on_floor`, `blocks_stay_in_bounds`: the first pass over any buffer.
-/

namespace PlotGrid

/-- An empty overlay has nothing for either pass. -/
theorem Overlay.layer?_of_isEmpty {o : Overlay} (h : o.isEmpty = true) (entities : Bool)
    (rx rz y : Int) : o.layer? entities rx rz y = none := by
  have hcolumn : o.column? rx rz = none :=
    Std.HashMap.getElem?_of_isEmpty (Bool.and_eq_true_iff.mp h).1
  rw [layer?, cell?_eq_none_of_column? hcolumn]
  rfl

namespace AreaConfig

variable {cfg : AreaConfig} {reg : Registry} {blocks : AreaBlocks}

/-- An area with a floor of bedrock has the block of that name. -/
theorem bedrock_of_blocks (h : cfg.blocks reg = .ok blocks) (hbedrock : cfg.plotBedrock = true) :
    ∃ block, reg.blockOfKey? "bedrock" = some block ∧ blocks.bedrock = some ⟨block, none⟩ := by
  obtain ⟨hfloor, -⟩ := blocks_eq_ok h
  rw [bedrock, if_pos hbedrock] at hfloor
  split at hfloor
  · rename_i block hblock
    exact ⟨block, hblock, (Except.ok.inj hfloor).symm⟩
  · cases hfloor

end AreaConfig

namespace Area

variable {a : Area} {F : Frame} {c : Column} {kind : ColumnKind} {y : Int}

theorem Accepted.bedrock (h : a.Accepted) (hbedrock : a.geometry.plotBedrock = true) :
    ∃ block, a.registry.blockOfKey? "bedrock" = some block ∧
      a.blocks.bedrock = some ⟨block, none⟩ := by
  obtain ⟨reg, settings, cfg, world, notices, h⟩ := h
  obtain ⟨g, blocks, biome, overlay, hresolve, -, rfl⟩ := ofConfig_eq_ok h
  obtain ⟨hgeometry, hblocks, -⟩ := resolve_eq_ok hresolve
  obtain ⟨-, -, rfl⟩ := AreaConfig.geometry_eq_ok hgeometry
  exact AreaConfig.bedrock_of_blocks hblocks hbedrock

theorem Published.bedrock (h : a.Published) (hbedrock : a.geometry.plotBedrock = true) :
    ∃ block, a.registry.blockOfKey? "bedrock" = some block ∧
      a.blocks.bedrock = some ⟨block, none⟩ := by
  obtain ⟨a₀, calls, haccepted, rfl⟩ := h
  -- publishing an overlay changes nothing else
  have hvariant := (haccepted.sound.shows_after calls).variantOf
  rw [hvariant] at hbedrock ⊢
  exact haccepted.bedrock hbedrock

/-! ## The first pass -/

/-- With an empty overlay the first pass shows the area's blocks. -/
theorem firstAt?_of_isEmpty (hempty : a.overlay.isEmpty = true) :
    a.firstAt? F c y = (a.ground? c.kind y).map fun p => F.see p c.x y c.z := by
  rw [firstAt?, part?, Overlay.layer?_of_isEmpty hempty, ite_self, Option.none_or]

/-- **With an empty overlay** the first pass lays the area's blocks over any buffer. -/
theorem exists_generate_ground {bottom top : BlockPos} {track : Bool} {b : Buffer}
    {calls : List Buffer.Call} (hpublished : a.Published) (hempty : a.overlay.isEmpty = true)
    (hbottom : bottom.InRange) (htop : top.InRange) (hnew : Buffer.new? bottom top track = .ok b)
    (hrun : ¬ Overflows (a.generate.exec (b.after calls)).1) :
    ∃ first columns, a.generate.exec (b.after calls) = (.ok (), first) ∧
      columnsOf a.geometry bottom b.width b.length = .ok columns ∧
      (∀ x z, x < b.width → z < b.length → ∃ c ∈ columns, c.x = x ∧ c.z = z) ∧
      ∀ c ∈ columns, ∀ y, first.voxel? c.x y c.z =
        (if bottom.y ≤ y ∧ y ≤ top.y then
          (a.ground? c.kind y).map fun p => p (bottom.x + c.x) y (bottom.z + c.z)
        else none).or ((b.after calls).voxel? c.x y c.z) := by
  have hfresh := Buffer.fresh_of_new? hbottom htop hnew
  have hbetween := Buffer.frame_of_new? hnew
  have hcorner : b.bottom = bottom := congrArg Frame.bottom hbetween
  obtain ⟨first, columns, hexec, hcolumns, hvoxel⟩ :=
    exists_generate_atop hpublished.hasCell hfresh.narrow hpublished.narrow
      (Buffer.hasFrame_after hfresh.frame calls) hrun
  refine ⟨first, columns, hexec, hcorner ▸ hcolumns, fun x z hx hz => ?_, fun c hc y => ?_⟩
  · exact exists_column hpublished.hasCell hfresh.narrow hcolumns ⟨hx, hz⟩
  · rw [hvoxel c hc y, firstAt?_of_isEmpty hempty, hbetween]
    rfl

/-! ## The floor -/

/-- **On the floor lies its block**, unless the surface of a plot is the floor. -/
theorem ground?_minGen {v : Voxel} (hlevels : a.geometry.Leveled)
    (hbedrock : a.blocks.bedrock = some v) :
    a.ground? kind a.geometry.minGen =
      if kind = .plot ∧ a.geometry.plotHeight = a.geometry.minGen then some a.blocks.top.pick
      else some (.const v) := by
  have hlowest : a.lowest = a.geometry.minGen + 1 := by rw [lowest, hbedrock]; rfl
  have hfloor : a.floorAt? a.geometry.minGen = some (.const v) := by
    rw [floorAt?, if_pos rfl, hbedrock]
    rfl
  -- the fillings start one above the floor
  have habove (hi : Int) : ¬ (a.lowest ≤ a.geometry.minGen ∧ a.geometry.minGen ≤ hi) := by omega
  rw [ground?, hfloor]
  cases kind with
  | road =>
    rw [blockAt?, if_neg (habove _), Option.none_or, if_neg fun h => ColumnKind.noConfusion h.1]
  | wall =>
    have hcap : a.geometry.wallHeight + 1 ≠ a.geometry.minGen := by
      have hwall := hlevels.wall.1
      omega
    rw [blockAt?, capAt?, if_neg fun h => hcap h.2, if_neg (habove _), Option.none_or,
      Option.none_or, if_neg fun h => ColumnKind.noConfusion h.1]
  | plot =>
    rw [blockAt?, if_neg (habove _), Option.or_none]
    by_cases hsurface : a.geometry.plotHeight = a.geometry.minGen
    · rw [if_pos hsurface, if_pos ⟨rfl, hsurface⟩, Option.some_or]
    · rw [if_neg hsurface, if_neg fun h => hsurface h.2, Option.none_or]

/-! ## The ceiling -/

/-- The cap of a wall that reaches to the ceiling, one above it. -/
def CapsAbove (a : Area) (kind : ColumnKind) (y : Int) : Prop :=
  kind = .wall ∧ a.overlay.hasRoad = false ∧ a.geometry.wallHeight = a.geometry.maxGen ∧
    y = a.geometry.maxGen + 1

instance (a : Area) (kind : ColumnKind) (y : Int) : Decidable (a.CapsAbove kind y) :=
  inferInstanceAs (Decidable (_ ∧ _))

/-- **Below the floor and above the ceiling there are only such caps.** -/
theorem ground?_outside (hlevels : a.geometry.Leveled)
    (hout : y < a.geometry.minGen ∨ a.geometry.maxGen < y) :
    a.ground? kind y = if a.CapsAbove kind y then some a.blocks.wall.pick else none := by
  obtain ⟨hroad, hplot, hwall, -⟩ := hlevels
  have hlowest := a.lowest_eq
  have hfloor : a.floorAt? y = none := by
    refine if_neg ?_
    omega
  have hnot (hi : Int) (hhi : hi ≤ a.geometry.maxGen) : ¬ (a.lowest ≤ y ∧ y ≤ hi) := by omega
  rw [ground?, hfloor, Option.or_none]
  cases kind with
  | road => rw [blockAt?, if_neg (hnot _ hroad.2), if_neg fun h => ColumnKind.noConfusion h.1]
  | wall =>
    rw [blockAt?, if_neg (hnot _ hwall.2), Option.or_none, capAt?]
    refine if_congr ⟨?_, ?_⟩ rfl rfl
    · rintro ⟨hcapped, hcap⟩
      exact ⟨rfl, hcapped, by omega, by omega⟩
    · rintro ⟨-, hcapped, hheight, rfl⟩
      exact ⟨hcapped, by omega⟩
  | plot =>
    rw [blockAt?, if_neg (hnot _ (by omega)), Option.or_none, if_neg (by omega),
      if_neg fun h => ColumnKind.noConfusion h.1]

end Area

/-! ## A shallow area -/

/-- A small cell with its plots on the floor, and roads and walls up to the ceiling. -/
def AreaConfig.shallow : AreaConfig :=
  { AreaConfig.small with
    plotHeight := 0
    maxGenHeight := some 4
    plotBedrock := true }

/-- A registry with two names. -/
def Registry.floored : Registry :=
  { Registry.small with idByName := Registry.small.idByName.insert "bedrock" 8 }

/-- A small cell of stone on bedrock, from height 0 to height 4. -/
def Area.shallow : Area :=
  { Area.small with
    geometry :=
      { Geometry.small with plotHeight := 0, maxGen := 4, maxBuild := 4, plotBedrock := true }
    blocks := { AreaBlocks.small with bedrock := some ⟨⟨8, 0⟩, none⟩ }
    registry := .floored
    overlay := ⟨3, ⟨0, 0, 4⟩, false, false, ∅, ∅⟩ }

theorem Registry.floored_bedrock : Registry.floored.blockOfKey? "bedrock" = some ⟨8, 0⟩ :=
  blockOfKey?_of_name (by decide) (by decide) Std.HashMap.getElem?_insert_self

theorem Registry.floored_stone : Registry.floored.blockOfKey? "stone" = some ⟨7, 0⟩ := by
  refine blockOfKey?_of_name (by decide) (by decide) ?_
  exact (Std.HashMap.getElem?_insert).trans Std.HashMap.getElem?_insert_self

theorem Area.shallow_accepted : Area.shallow.Accepted := by
  have hfloor : AreaConfig.shallow.bedrock .floored = .ok (some ⟨⟨8, 0⟩, none⟩) := by
    rw [AreaConfig.bedrock, Registry.floored_bedrock]
    rfl
  exact accepted_of_parts .default .shallow ⟨"world", 0, 15⟩ rfl rfl
    (AreaConfig.blocks_of_stone Registry.floored_stone hfloor rfl) rfl rfl

theorem Area.shallow_columns : ∃ columns, columnsOf shallow.geometry ⟨0, 0, 0⟩ 3 3 = .ok columns ∧
    ⟨0, 0, 0, 0, .wall⟩ ∈ columns ∧ ⟨1, 1, 1, 1, .plot⟩ ∈ columns :=
  ⟨_, rfl, by decide, by decide⟩

theorem Area.shallow_runs :
    ¬ Overflows (Area.shallow.generate.exec (Buffer.small.after [])).1 := by
  have hsound := Area.shallow_accepted.sound
  obtain ⟨columns, hcolumns, -⟩ := Area.shallow_columns
  show ¬ Overflows (Area.shallow.generate.exec .small).1
  rw [Area.not_overflows_generate_iff hsound.hasCell hsound.narrow Buffer.small_fresh]
  refine ⟨⟨_, rfl⟩, columns, hcolumns, fun c _ => ⟨?_, fun happlies => ?_⟩⟩
  · cases c.kind with
    | road => trivial
    | wall => exact fun _ => show Coord.InRange 5 by decide
    | plot => exact show Coord.InRange (-1) by decide
  · rw [hsound.appliesTo_eq_false] at happlies
    cases happlies

theorem Area.shallow_published : Area.shallow.Published :=
  ⟨.shallow, [], shallow_accepted, rfl⟩

/-! ## The first pass over any buffer -/

variable {a : Area} {bottom top : BlockPos} {track : Bool} {b : Buffer} {calls : List Buffer.Call}

/-- **Bedrock lies on the floor of every column** of an area that asks for it, as long as the
overlay is empty and the plots end above the floor. Where the surface of the plots is the floor, it
lies there instead. -/
theorem bedrock_lies_on_floor (hpublished : a.Published)
    (hbedrock : a.geometry.plotBedrock = true) (hempty : a.overlay.isEmpty = true)
    (hbottom : bottom.InRange) (htop : top.InRange) (hnew : Buffer.new? bottom top track = .ok b)
    (hfloor : bottom.y ≤ a.geometry.minGen ∧ a.geometry.minGen ≤ top.y)
    (hrun : ¬ Overflows (a.generate.exec (b.after calls)).1) :
    ∃ block first columns, a.registry.blockOfKey? "bedrock" = some block ∧
      a.generate.exec (b.after calls) = (.ok (), first) ∧
      columnsOf a.geometry bottom b.width b.length = .ok columns ∧
      (∀ x z, x < b.width → z < b.length → ∃ c ∈ columns, c.x = x ∧ c.z = z) ∧
      ∀ c ∈ columns, first.voxel? c.x a.geometry.minGen c.z = some
        (if c.kind = .plot ∧ a.geometry.plotHeight = a.geometry.minGen then
          a.blocks.top.pick (bottom.x + c.x) a.geometry.minGen (bottom.z + c.z)
        else ⟨block, none⟩) := by
  obtain ⟨block, hblock, hvoxel⟩ := hpublished.bedrock hbedrock
  obtain ⟨first, columns, hexec, hcolumns, hplace, hshown⟩ :=
    Area.exists_generate_ground hpublished hempty hbottom htop hnew hrun
  refine ⟨block, first, columns, hblock, hexec, hcolumns, hplace, fun c hc => ?_⟩
  rw [hshown c hc, if_pos hfloor, Area.ground?_minGen hpublished.leveled hvoxel]
  split
  · rfl
  · rfl

/-- Bedrock lies below the walls of the shallow area. -/
theorem bedrock_lies_on_floor_of_shallow : ∃ first,
    Area.shallow.generate.exec .small = (.ok (), first) ∧
      first.voxel? 0 0 0 = some ⟨⟨8, 0⟩, none⟩ := by
  obtain ⟨columns, hcolumns, hwall, -⟩ := Area.shallow_columns
  obtain ⟨block, first, columns', hblock, hexec, hcolumns', -, hshown⟩ :=
    bedrock_lies_on_floor Area.shallow_published rfl rfl (by decide) (by decide) Buffer.small_new
      (by decide) Area.shallow_runs
  obtain rfl := Except.ok.inj (hcolumns.symm.trans hcolumns')
  obtain rfl := Option.some.inj (Registry.floored_bedrock.symm.trans hblock)
  exact ⟨first, hexec, hshown _ hwall⟩

/-- The plots of the shallow area lie on its floor and replace the bedrock there. -/
theorem low_plots_replace_bedrock : ∃ first columns, Area.shallow.Accepted ∧
    Area.shallow.geometry.plotBedrock = true ∧ Area.shallow.overlay.isEmpty = true ∧
    Area.shallow.registry.blockOfKey? "bedrock" = some ⟨8, 0⟩ ∧
    Buffer.new? ⟨0, 0, 0⟩ ⟨2, 7, 2⟩ false = .ok .small ∧
    Area.shallow.generate.exec .small = (.ok (), first) ∧
    columnsOf Area.shallow.geometry ⟨0, 0, 0⟩ 3 3 = .ok columns ∧
    ⟨1, 1, 1, 1, .plot⟩ ∈ columns ∧
    first.voxel? 1 Area.shallow.geometry.minGen 1 = some ⟨⟨7, 0⟩, none⟩ := by
  obtain ⟨columns, hcolumns, -, hplot⟩ := Area.shallow_columns
  obtain ⟨first, columns', hexec, hcolumns', -, hshown⟩ := Area.exists_generate_ground
    Area.shallow_published rfl (by decide) (by decide) Buffer.small_new Area.shallow_runs
  obtain rfl := Except.ok.inj (hcolumns.symm.trans hcolumns')
  exact ⟨first, columns, Area.shallow_accepted, rfl, rfl, Registry.floored_bedrock,
    Buffer.small_new, hexec, hcolumns, hplot, hshown _ hplot 0⟩

/-- **The blocks stay between the floor and the ceiling** of an area as long as the overlay is
empty, except for the caps of walls that reach to the ceiling: each of them stands one above it, if
the buffer has that height. -/
theorem blocks_stay_in_bounds (hpublished : a.Published) (hempty : a.overlay.isEmpty = true)
    (hbottom : bottom.InRange) (htop : top.InRange) (hnew : Buffer.new? bottom top track = .ok b)
    (hrun : ¬ Overflows (a.generate.exec (b.after calls)).1) :
    ∃ first columns, a.generate.exec (b.after calls) = (.ok (), first) ∧
      columnsOf a.geometry bottom b.width b.length = .ok columns ∧
      (∀ x z, x < b.width → z < b.length → ∃ c ∈ columns, c.x = x ∧ c.z = z) ∧
      (∀ c ∈ columns, ∀ y, y < a.geometry.minGen ∨ a.geometry.maxGen < y →
        first.voxel? c.x y c.z =
          if (bottom.y ≤ y ∧ y ≤ top.y) ∧ a.CapsAbove c.kind y then
            some (a.blocks.wall.pick (bottom.x + c.x) y (bottom.z + c.z))
          else (b.after calls).voxel? c.x y c.z) ∧
      (calls = [] →
        ((∀ c ∈ columns, ∀ y, (first.voxel? c.x y c.z).isSome = true →
            a.geometry.minGen ≤ y ∧ y ≤ a.geometry.maxGen) ↔
          ∀ c ∈ columns, ∀ y, bottom.y ≤ y ∧ y ≤ top.y → ¬ a.CapsAbove c.kind y)) := by
  obtain ⟨first, columns, hexec, hcolumns, hplace, hshown⟩ :=
    Area.exists_generate_ground hpublished hempty hbottom htop hnew hrun
  have hout (c : Column) (hc : c ∈ columns) (y : Int)
      (hy : y < a.geometry.minGen ∨ a.geometry.maxGen < y) : first.voxel? c.x y c.z =
        if (bottom.y ≤ y ∧ y ≤ top.y) ∧ a.CapsAbove c.kind y then
          some (a.blocks.wall.pick (bottom.x + c.x) y (bottom.z + c.z))
        else (b.after calls).voxel? c.x y c.z := by
    rw [hshown c hc, Area.ground?_outside hpublished.leveled hy]
    by_cases hheight : bottom.y ≤ y ∧ y ≤ top.y
    · by_cases hcap : a.CapsAbove c.kind y
      · rw [if_pos hheight, if_pos hcap, if_pos ⟨hheight, hcap⟩]
        rfl
      · rw [if_pos hheight, if_neg hcap, if_neg fun h => hcap h.2]
        rfl
    · rw [if_neg hheight, if_neg fun h => hheight h.1]
      rfl
  refine ⟨first, columns, hexec, hcolumns, hplace, hout, ?_⟩
  rintro rfl
  constructor
  · -- a cap above the ceiling is a voxel outside of the bounds
    intro hbounds c hc y hy hcap
    have hceiling : a.geometry.maxGen < y := by
      rw [hcap.2.2.2]
      exact Int.lt_succ _
    refine Int.not_le.mpr hceiling (hbounds c hc y ?_).2
    rw [hout c hc y (.inr hceiling), if_pos ⟨hy, hcap⟩]
    rfl
  · intro hcaps c hc y hsome
    refine Classical.byContradiction fun hbounds => ?_
    have hfresh := Buffer.fresh_of_new? hbottom htop hnew
    have hnone : b.voxel? c.x y c.z = none :=
      congrArg (fun p : Content => p.voxel c.x y c.z) hfresh.content
    have hy : y < a.geometry.minGen ∨ a.geometry.maxGen < y := by omega
    rw [hout c hc y hy, if_neg fun h => hcaps c hc y h.1 h.2] at hsome
    exact Option.not_isSome_iff_eq_none.mpr hnone hsome

/-- Above its ceiling the shallow area has nothing in the plots. -/
theorem blocks_stay_in_bounds_of_shallow : ∃ first,
    Area.shallow.generate.exec .small = (.ok (), first) ∧ first.voxel? 1 5 1 = none := by
  obtain ⟨columns, hcolumns, -, hplot⟩ := Area.shallow_columns
  obtain ⟨first, columns', hexec, hcolumns', -, hout, -⟩ :=
    blocks_stay_in_bounds Area.shallow_published rfl (by decide) (by decide) Buffer.small_new
      Area.shallow_runs
  obtain rfl := Except.ok.inj (hcolumns.symm.trans hcolumns')
  exact ⟨first, hexec, hout _ hplot 5 (.inr (by decide))⟩

/-- The walls of the shallow area reach to its ceiling, and their caps stand above it. -/
theorem high_walls_have_caps_above : ∃ first, Area.shallow.Accepted ∧
    Area.shallow.overlay.isEmpty = true ∧
    Buffer.new? ⟨0, 0, 0⟩ ⟨2, 7, 2⟩ false = .ok .small ∧
    Area.shallow.generate.exec .small = (.ok (), first) ∧
    Buffer.small.voxel? 0 5 0 = none ∧ first.voxel? 0 5 0 = some ⟨⟨7, 0⟩, none⟩ ∧
    ¬ 5 ≤ Area.shallow.geometry.maxGen := by
  obtain ⟨columns, hcolumns, hwall, -⟩ := Area.shallow_columns
  obtain ⟨first, columns', hexec, hcolumns', -, hshown⟩ := Area.exists_generate_ground
    Area.shallow_published rfl (by decide) (by decide) Buffer.small_new Area.shallow_runs
  obtain rfl := Except.ok.inj (hcolumns.symm.trans hcolumns')
  exact ⟨first, Area.shallow_accepted, rfl, Buffer.small_new, hexec, rfl, hshown _ hwall 5,
    by decide⟩

end PlotGrid
