import PlotGrid.Proofs.Area.History
import PlotGrid.Proofs.Area.Split
import PlotGrid.Proofs.Chunk.History

/-!
# Seamless generation

What an area puts into a column of the world does not depend on the buffer that it fills: two
buffers of the same heights show the same wherever they overlap. If no bucket of the area mixes
blocks, they show the same in columns that are whole cells apart too.

- `Bucket.Uniform`: a bucket that does not mix blocks.
- `Area.Published`: an area with an overlay that was published in it.
- `Area.Alike`: columns of the world that an area cannot tell apart.
- `Area.Alike.samePosition`: such columns have one position within the cell.
- `Area.Alike.firstAt?_eq`: the first pass shows the same in them.
- `Area.Matches`, `Area.matches_columnwise`: contents that show the same in them.
- `Area.Matches.run`: a pass keeps buffers that match matching.
- `generation_is_seamless`: both passes over two buffers.
-/

namespace PlotGrid

/-! ## Buckets that do not mix -/

namespace Bucket

/-- All entries are of one voxel. -/
def Uniform (b : Bucket) : Prop :=
  ∀ e ∈ b.entries, e.1 = b.first

instance (b : Bucket) : Decidable b.Uniform :=
  inferInstanceAs (Decidable (∀ e ∈ b.entries, _))

/-- A bucket that does not mix blocks gives its first one everywhere. -/
theorem pick_of_uniform {b : Bucket} (h : b.Uniform) (x y z : Int) : b.pick x y z = b.first := by
  unfold pick
  split
  · rfl
  · cases hchoose : choose b.entries ((positionHash x y z).toNat % b.total) with
    | none => rfl
    | some v =>
      obtain ⟨e, he, rfl⟩ := mem_of_choose hchoose
      exact h e he

end Bucket

/-- No bucket of an area mixes blocks. -/
def AreaBlocks.Uniform (blocks : AreaBlocks) : Prop :=
  ∀ bucket ∈ blocks.buckets, bucket.Uniform

instance (blocks : AreaBlocks) : Decidable blocks.Uniform :=
  inferInstanceAs (Decidable (∀ bucket ∈ blocks.buckets, _))

/-! ## Positions within the cell -/

/-- A column of the world between two corners. -/
def BlockPos.CoversColumn (bottom top : BlockPos) (X Z : Int) : Prop :=
  (bottom.x ≤ X ∧ X ≤ top.x) ∧ bottom.z ≤ Z ∧ Z ≤ top.z

instance (bottom top : BlockPos) (X Z : Int) : Decidable (bottom.CoversColumn top X Z) :=
  inferInstanceAs (Decidable (_ ∧ _))

/-- Two columns with one position within the cell. -/
structure Column.SamePosition (c c' : Column) : Prop where
  rx : c'.rx = c.rx
  rz : c'.rz = c.rz
  kind : c'.kind = c.kind

/-- Whole cells do not change the position within the cell. -/
theorem Geometry.samePosition_columnOf (g : Geometry) {size m n : Int} (upper : Int)
    {bottom bottom' : BlockPos} {x z x' z' : Nat}
    (hx : bottom'.x + x' = bottom.x + x + m * size)
    (hz : bottom'.z + z' = bottom.z + z + n * size) :
    (g.columnOf size upper bottom x z).SamePosition (g.columnOf size upper bottom' x' z') := by
  have hshift (start k road : Int) :
      (start + k * size - road) % size = (start - road) % size := by
    have hcells : start + k * size - road = start - road + k * size := by omega
    rw [hcells, Int.add_mul_emod_self_right]
  have hrx : (g.columnOf size upper bottom' x' z').rx = (g.columnOf size upper bottom x z).rx := by
    simp only [columnOf]
    rw [hx, hshift]
  have hrz : (g.columnOf size upper bottom' x' z').rz = (g.columnOf size upper bottom x z).rz := by
    simp only [columnOf]
    rw [hz, hshift]
  exact ⟨hrx, hrz, congrArg₂ (fun rx rz => ColumnKind.classify rx rz g.pathLower upper) hrx hrz⟩

namespace Area

variable {a a₀ : Area} {F F' : Frame} {c c' : Column} {columns columns' : List Column}
  {X Z X' Z' : Int}

/-! ## Published overlays -/

/-- An area that was made from a configuration, after any calls that publish overlays in it. -/
def Published (a : Area) : Prop :=
  ∃ (a₀ : Area) (calls : List Call), a₀.Accepted ∧ a = a₀.after calls

theorem Published.hasCell (h : a.Published) : a.HasCell := by
  obtain ⟨a₀, calls, haccepted, rfl⟩ := h
  rw [HasCell, (haccepted.sound.shows_after calls).variantOf.geometry_eq]
  exact haccepted.sound.hasCell

theorem Published.narrow (h : a.Published) : a.overlay.Narrow := by
  obtain ⟨a₀, calls, haccepted, rfl⟩ := h
  rcases haccepted.sound.shows_after calls with hblank | ⟨f, o, ho, hbuilt⟩
  · rw [hblank]
    exact haccepted.sound.narrow
  · rw [hbuilt]
    exact Overlay.narrow_of_build (Prod.ext ho rfl)

/-! ## Columns that look alike -/

/-- Columns of the world that an area cannot tell apart: a column and itself, and columns that are
whole cells apart if no bucket of the area mixes blocks. -/
def Alike (a : Area) (X Z X' Z' : Int) : Prop :=
  (X' = X ∧ Z' = Z) ∨
    (a.blocks.Uniform ∧ ∃ m n : Int,
      X' = X + m * (a.geometry.plotWidth + a.geometry.roadWidth) ∧
        Z' = Z + n * (a.geometry.plotWidth + a.geometry.roadWidth))

theorem Alike.exists_shift (h : a.Alike X Z X' Z') : ∃ m n : Int,
    X' = X + m * (a.geometry.plotWidth + a.geometry.roadWidth) ∧
      Z' = Z + n * (a.geometry.plotWidth + a.geometry.roadWidth) := by
  rcases h with ⟨hx, hz⟩ | ⟨-, hshift⟩
  · exact ⟨0, 0, by omega, by omega⟩
  · exact hshift

/-- The area's blocks below the overlay look alike. -/
theorem Alike.ground_eq (h : a.Alike X Z X' Z') {kind : ColumnKind} {y : Int} {p : Pattern}
    (hp : a.ground? kind y = some p) : p X' y Z' = p X y Z := by
  rcases h with ⟨rfl, rfl⟩ | ⟨huniform, -⟩
  · rfl
  · rcases of_ground?_eq_some hp with ⟨bucket, hbucket, rfl⟩ | ⟨v, -, rfl⟩
    · rw [Bucket.pick_of_uniform (huniform bucket hbucket),
        Bucket.pick_of_uniform (huniform bucket hbucket)]
    · rfl

/-- **Columns that look alike have one position within the cell**, in whatever frames they are. -/
theorem Alike.samePosition (h : a.Alike (F.bottom.x + c.x) (F.bottom.z + c.z)
      (F'.bottom.x + c'.x) (F'.bottom.z + c'.z)) (ha : a.HasCell) (hF : F.Narrow)
    (hF' : F'.Narrow) (hcolumns : a.columns F = .ok columns)
    (hcolumns' : a.columns F' = .ok columns') (hc : c ∈ columns) (hc' : c' ∈ columns') :
    c.SamePosition c' := by
  obtain ⟨upper, hupper, hmem⟩ := mem_columns_iff ha hF hcolumns
  obtain ⟨upper', hupper', hmem'⟩ := mem_columns_iff ha hF' hcolumns'
  have hcolumn := ((hmem c).mp hc).2
  have hcolumn' := ((hmem' c').mp hc').2
  rw [← Except.ok.inj (hupper.symm.trans hupper')] at hcolumn'
  obtain ⟨m, n, hx, hz⟩ := h.exists_shift
  have hsame := a.geometry.samePosition_columnOf upper hx hz
  rw [← hcolumn, ← hcolumn'] at hsame
  exact hsame

/-! ## What the passes show -/

theorem part?_samePosition (h : c.SamePosition c') (entities : Bool) (y : Int) :
    a.part? entities c' y = a.part? entities c y := by
  rw [part?, part?, h.kind, h.rx, h.rz]

theorem biomeOf?_samePosition (h : c.SamePosition c') : a.biomeOf? c' = a.biomeOf? c := by
  rw [biomeOf?, biomeOf?, h.kind, h.rx, h.rz]

/-- **The first pass shows the same in columns that look alike.** -/
theorem Alike.firstAt?_eq (h : a.Alike (F.bottom.x + c.x) (F.bottom.z + c.z)
      (F'.bottom.x + c'.x) (F'.bottom.z + c'.z)) (hsame : c.SamePosition c') (y : Int) :
    a.firstAt? F' c' y = a.firstAt? F c y := by
  rw [firstAt?, firstAt?, part?_samePosition hsame, hsame.kind]
  refine congrArg (Option.or _) (Option.map_congr fun p hp => ?_)
  exact h.ground_eq hp

/-! ## Contents that match -/

/-- Two contents show the same in columns that an area cannot tell apart; the columns are given by
their coordinates in the world, and the contents lie between corners. -/
def Matches (a : Area) (bottom top bottom' top' : BlockPos) (p p' : Content) : Prop :=
  ∀ X Z X' Z', bottom.CoversColumn top X Z → bottom'.CoversColumn top' X' Z' →
    a.Alike X Z X' Z' → ∀ y,
      p.voxel (X - bottom.x).toNat y (Z - bottom.z).toNat =
        p'.voxel (X' - bottom'.x).toNat y (Z' - bottom'.z).toNat ∧
      p.biome (X - bottom.x).toNat y (Z - bottom.z).toNat =
        p'.biome (X' - bottom'.x).toNat y (Z' - bottom'.z).toNat

section Matches

variable {bottom top bottom' top' : BlockPos} {track : Bool} {p p' q q' : Content}

theorem Matches.empty : a.Matches bottom top bottom' top' .empty .empty :=
  fun _ _ _ _ _ _ _ _ => ⟨rfl, rfl⟩

theorem Matches.atop (hp : a.Matches bottom top bottom' top' p p')
    (hq : a.Matches bottom top bottom' top' q q') :
    a.Matches bottom top bottom' top' (p.atop q) (p'.atop q') := by
  intro X Z X' Z' hcovers hcovers' halike y
  obtain ⟨hvoxel, hbiome⟩ := hp X Z X' Z' hcovers hcovers' halike y
  obtain ⟨hvoxel', hbiome'⟩ := hq X Z X' Z' hcovers hcovers' halike y
  exact ⟨congrArg₂ Option.or hvoxel hvoxel', congrArg₂ Option.or hbiome hbiome'⟩

theorem hasColumn_of_covers (h : bottom.CoversColumn top X Z) :
    (Frame.between bottom top track).HasColumn (X - bottom.x).toNat (Z - bottom.z).toNat := by
  obtain ⟨⟨hlowX, hhighX⟩, hlowZ, hhighZ⟩ := h
  simp only [Frame.HasColumn, Frame.between]
  omega

theorem exists_column_of_covers (ha : a.HasCell) (hF : (Frame.between bottom top track).Narrow)
    (hcolumns : a.columns (.between bottom top track) = .ok columns)
    (h : bottom.CoversColumn top X Z) :
    ∃ c ∈ columns, c.x = (X - bottom.x).toNat ∧ c.z = (Z - bottom.z).toNat ∧
      bottom.x + c.x = X ∧ bottom.z + c.z = Z := by
  obtain ⟨c, hc, hx, hz⟩ := exists_column ha hF hcolumns (hasColumn_of_covers h)
  obtain ⟨⟨hlowX, -⟩, hlowZ, -⟩ := h
  exact ⟨c, hc, hx, hz, by omega, by omega⟩

theorem hasHeight_between (hfloor : bottom.y = bottom'.y) (hceiling : top.y = top'.y) (y : Int) :
    (Frame.between bottom top track).HasHeight y ↔
      (Frame.between bottom' top' track).HasHeight y := by
  simp only [Frame.HasHeight, Frame.between, hfloor, hceiling]

variable (hfloor : bottom.y = bottom'.y) (hceiling : top.y = top'.y)
include hfloor hceiling

/-- **Contents match if their columns do.** -/
theorem matches_columnwise (ha : a.HasCell) (hF : (Frame.between bottom top track).Narrow)
    (hF' : (Frame.between bottom' top' track).Narrow)
    (hcolumns : a.columns (.between bottom top track) = .ok columns)
    (hcolumns' : a.columns (.between bottom' top' track) = .ok columns')
    {shown shown' : Column → Int → Option Voxel} {tag tag' : Column → Option BiomeTag}
    (hcolumn : ∀ c c', a.Alike (bottom.x + c.x) (bottom.z + c.z) (bottom'.x + c'.x)
      (bottom'.z + c'.z) → c.SamePosition c' → shown' c' = shown c ∧ tag' c' = tag c) :
    a.Matches bottom top bottom' top'
      (a.columnwise (.between bottom top track) fun c =>
        (Frame.between bottom top track).column c.x c.z (shown c) (tag c))
      (a.columnwise (.between bottom' top' track) fun c =>
        (Frame.between bottom' top' track).column c.x c.z (shown' c) (tag' c)) := by
  intro X Z X' Z' hcovers hcovers' halike y
  obtain ⟨c, hc, hx, hz, rfl, rfl⟩ := exists_column_of_covers ha hF hcolumns hcovers
  obtain ⟨c', hc', hx', hz', rfl, rfl⟩ := exists_column_of_covers ha hF' hcolumns' hcovers'
  obtain ⟨hshown, htag⟩ :=
    hcolumn c c' halike (halike.samePosition ha hF hF' hcolumns hcolumns' hc hc')
  rw [← hx, ← hz, ← hx', ← hz', voxel_columnwise ha hF hcolumns _ _ hc,
    voxel_columnwise ha hF' hcolumns' _ _ hc', biome_columnwise ha hF hcolumns _ _ hc,
    biome_columnwise ha hF' hcolumns' _ _ hc', hshown, htag]
  exact ⟨if_congr (hasHeight_between hfloor hceiling y) rfl rfl,
    if_congr (and_congr_left fun _ => hasHeight_between hfloor hceiling y) rfl rfl⟩

theorem matches_plainBiomes : a.Matches bottom top bottom' top'
    (a.plainBiomes (.between bottom top track)) (a.plainBiomes (.between bottom' top' track)) := by
  intro X Z X' Z' hcovers hcovers' _ y
  rw [voxel_plainBiomes, voxel_plainBiomes, biome_plainBiomes (hasColumn_of_covers hcovers),
    biome_plainBiomes (hasColumn_of_covers hcovers')]
  exact ⟨rfl, if_congr (and_congr_left fun _ => hasHeight_between hfloor hceiling y) rfl rfl⟩

/-- What the first pass lays over two buffers matches. -/
theorem matches_generated (ha : a.HasCell) (hF : (Frame.between bottom top track).Narrow)
    (hF' : (Frame.between bottom' top' track).Narrow)
    (hcan : a.CanGenerate (.between bottom top track))
    (hcan' : a.CanGenerate (.between bottom' top' track)) :
    a.Matches bottom top bottom' top'
      ((a.columnwise (.between bottom top track) (a.generated (.between bottom top track))).atop
        (a.plainBiomes (.between bottom top track)))
      ((a.columnwise (.between bottom' top' track) (a.generated (.between bottom' top' track))).atop
        (a.plainBiomes (.between bottom' top' track))) := by
  obtain ⟨-, columns, hcolumns, -⟩ := hcan
  obtain ⟨-, columns', hcolumns', -⟩ := hcan'
  refine .atop ?_ (matches_plainBiomes hfloor hceiling)
  refine matches_columnwise hfloor hceiling ha hF hF' hcolumns hcolumns' ?_
  exact fun c c' halike hsame =>
    ⟨funext fun y => halike.firstAt?_eq hsame y, biomeOf?_samePosition hsame⟩

/-- What the second pass lays over two buffers matches. -/
theorem matches_populated (ha : a.HasCell) (hF : (Frame.between bottom top track).Narrow)
    (hF' : (Frame.between bottom' top' track).Narrow)
    (hcan : a.CanPopulate (.between bottom top track))
    (hcan' : a.CanPopulate (.between bottom' top' track)) :
    a.Matches bottom top bottom' top'
      (a.columnwise (.between bottom top track) (a.populated (.between bottom top track)))
      (a.columnwise (.between bottom' top' track) (a.populated (.between bottom' top' track))) := by
  cases hflags : (!a.overlay.hasRoad && !a.overlay.hasPlot) with
  | true =>
    -- without fragments there is nothing, whether or not the columns can be had
    rw [columnwise_of_flags hflags, columnwise_of_flags hflags]
    exact .empty
  | false =>
    have happlies : a.overlay.hasRoad = true ∨ a.overlay.hasPlot = true := by
      cases hroad : a.overlay.hasRoad <;> cases hplot : a.overlay.hasPlot <;> simp_all
    obtain ⟨columns, hcolumns, -⟩ := hcan happlies
    obtain ⟨columns', hcolumns', -⟩ := hcan' happlies
    refine matches_columnwise hfloor hceiling ha hF hF' hcolumns hcolumns' ?_
    exact fun c c' _ hsame => ⟨funext fun y => part?_samePosition hsame true y, rfl⟩

end Matches

/-! ## The passes over two buffers -/

/-- A computation that lays contents that match over two buffers that match leaves buffers that
match. -/
theorem Matches.run {α : Type} {m : Fill α} {r r' : α} {P P' : Prop} {p p' : Content}
    {bottom top bottom' top' : BlockPos} {b b' : Buffer}
    (hm : Fill.Lays F P m r p) (hm' : Fill.Lays F' P' m r' p') (hb : b.HasFrame F)
    (hb' : b'.HasFrame F') (hbefore : a.Matches bottom top bottom' top' b.content b'.content)
    (hmatch : P → P' → a.Matches bottom top bottom' top' p p')
    (hrun : ¬ Overflows (m.exec b).1) (hrun' : ¬ Overflows (m.exec b').1) :
    ∃ next next', m.exec b = (.ok r, next) ∧ m.exec b' = (.ok r', next') ∧ next.HasFrame F ∧
      next'.HasFrame F' ∧ a.Matches bottom top bottom' top' next.content next'.content := by
  rcases hm b hb with ⟨hP, next, hexec, hnext, hcontent⟩ | ⟨-, fault, next, hexec, hstop⟩
  · rcases hm' b' hb' with ⟨hP', next', hexec', hnext', hcontent'⟩ |
      ⟨-, fault, next', hexec', hstop⟩
    · refine ⟨next, next', hexec, hexec', hnext, hnext', ?_⟩
      rw [hcontent, hcontent']
      exact (hmatch hP hP').atop hbefore
    · exact absurd ⟨fault, congrArg Prod.fst hexec', hstop.isOverflow⟩ hrun'
  · exact absurd ⟨fault, congrArg Prod.fst hexec, hstop.isOverflow⟩ hrun

end Area

/-- **Generation is seamless.** Let an overlay be published in an area, and take two new buffers of
the same heights that both keep biomes or both do not. A pass that overflows over neither of them
leaves the same voxels and biomes in every column that they share and, if no bucket of the area
mixes blocks, in columns that are whole cells apart. This holds for the first pass, for the second
pass, and for the second pass over what the first one left. -/
theorem generation_is_seamless {a : Area} {bottom top bottom' top' : BlockPos} {track : Bool}
    {b b' : Buffer} (hpublished : a.Published) (hbottom : bottom.InRange) (htop : top.InRange)
    (hbottom' : bottom'.InRange) (htop' : top'.InRange)
    (hnew : Buffer.new? bottom top track = .ok b)
    (hnew' : Buffer.new? bottom' top' track = .ok b') (hfloor : bottom.y = bottom'.y)
    (hceiling : top.y = top'.y) :
    (¬ Overflows (a.generate.exec b).1 → ¬ Overflows (a.generate.exec b').1 →
      ∃ first first', a.generate.exec b = (.ok (), first) ∧
        a.generate.exec b' = (.ok (), first') ∧
        a.Matches bottom top bottom' top' first.content first'.content ∧
        (¬ Overflows (a.populate.exec first).1 →
          ¬ Overflows (a.populate.exec first').1 →
          ∃ full full' wrote wrote', a.populate.exec first = (.ok wrote, full) ∧
            a.populate.exec first' = (.ok wrote', full') ∧
            a.Matches bottom top bottom' top' full.content full'.content)) ∧
    (¬ Overflows (a.populate.exec b).1 → ¬ Overflows (a.populate.exec b').1 →
      ∃ second second' wrote wrote', a.populate.exec b = (.ok wrote, second) ∧
        a.populate.exec b' = (.ok wrote', second') ∧
        a.Matches bottom top bottom' top' second.content second'.content) := by
  have ha := hpublished.hasCell
  have ho := hpublished.narrow
  have hb := Buffer.fresh_of_new? hbottom htop hnew
  have hb' := Buffer.fresh_of_new? hbottom' htop' hnew'
  have hF : (Frame.between bottom top track).Narrow := Buffer.frame_of_new? hnew ▸ hb.narrow
  have hF' : (Frame.between bottom' top' track).Narrow := Buffer.frame_of_new? hnew' ▸ hb'.narrow
  have hframe : b.HasFrame (.between bottom top track) := Buffer.frame_of_new? hnew ▸ hb.frame
  have hframe' : b'.HasFrame (.between bottom' top' track) :=
    Buffer.frame_of_new? hnew' ▸ hb'.frame
  have hblank : a.Matches bottom top bottom' top' b.content b'.content := by
    rw [hb.content, hb'.content]
    exact .empty
  -- a pass over any two buffers that match leaves buffers that match
  have hgenerate := Area.generate_lays ha hF ho
  have hgenerate' := Area.generate_lays ha hF' ho
  have hpopulate := Area.populate_lays ha hF ho
  have hpopulate' := Area.populate_lays ha hF' ho
  have hfirst := Area.matches_generated hfloor hceiling ha hF hF'
  have hsecond := Area.matches_populated hfloor hceiling ha hF hF'
  refine ⟨fun hrun hrun' => ?_, fun hrun hrun' => ?_⟩
  · obtain ⟨first, first', hexec, hexec', hnext, hnext', hmatch⟩ :=
      hblank.run hgenerate hgenerate' hframe hframe' hfirst hrun hrun'
    refine ⟨first, first', hexec, hexec', hmatch, fun hpop hpop' => ?_⟩
    obtain ⟨full, full', hexec, hexec', -, -, hfull⟩ :=
      hmatch.run hpopulate hpopulate' hnext hnext' hsecond hpop hpop'
    exact ⟨full, full', _, _, hexec, hexec', hfull⟩
  · obtain ⟨second, second', hexec, hexec', -, -, hmatch⟩ :=
      hblank.run hpopulate hpopulate' hframe hframe' hsecond hrun hrun'
    exact ⟨second, second', _, _, hexec, hexec', hmatch⟩

/-- A box in front of the small one. -/
def Buffer.ahead : Buffer :=
  ⟨⟨-4, 0, -1⟩, ⟨-1, 7, 1⟩, .empty 4 3 8, none⟩

theorem Buffer.ahead_new : Buffer.new? ⟨-4, 0, -1⟩ ⟨-1, 7, 1⟩ false = .ok .ahead :=
  rfl

/-- One cell ahead of the post there is another one, with its sign. -/
theorem generation_is_seamless_of_small : ∃ a first first' second second' wrote wrote',
    a = Area.small.after [.install .small] ∧
      a.generate.exec .small = (.ok (), first) ∧ a.generate.exec .ahead = (.ok (), first') ∧
      (∀ y, first.voxel? 1 y 1 = first'.voxel? 2 y 2) ∧
      a.populate.exec .small = (.ok wrote, second) ∧
      a.populate.exec .ahead = (.ok wrote', second') ∧
      ∀ y, second.voxel? 1 y 1 = second'.voxel? 2 y 2 := by
  obtain ⟨o, reports, hbuild⟩ := Area.small_build
  obtain ⟨notices, hinstall⟩ := Area.exists_install_eq (a := .small) hbuild
  have hafter : Area.small.after [.install .small] = { Area.small with overlay := o } := by
    show Area.next .small (.install .small) = _
    rw [Area.next, Area.Call.run, hinstall]
    rfl
  have hruns := Area.small_runs hbuild
  have hruns' := Area.small_runs_of hbuild
    (Buffer.fresh_of_new? (by decide) (by decide) Buffer.ahead_new) ⟨_, rfl⟩
  rw [← hafter] at hruns hruns'
  obtain ⟨hgenerate, hpopulate⟩ := generation_is_seamless
    ⟨.small, [.install .small], Area.small_accepted, rfl⟩ (by decide) (by decide) (by decide)
    (by decide) Buffer.small_new Buffer.ahead_new rfl rfl
  obtain ⟨first, first', hfirst, hfirst', hmatch, -⟩ := hgenerate hruns.1 hruns'.1
  obtain ⟨second, second', wrote, wrote', hsecond, hsecond', hmatch'⟩ := hpopulate hruns.2 hruns'.2
  have halike : (Area.small.after [.install .small]).Alike 1 1 (-2) 1 := by
    rw [hafter]
    exact .inr ⟨show AreaBlocks.Uniform .small by decide, -1, 0, rfl, rfl⟩
  exact ⟨_, first, first', second, second', wrote, wrote', rfl, hfirst, hfirst',
    fun y => (hmatch 1 1 (-2) 1 (by decide) (by decide) halike y).1, hsecond, hsecond',
    fun y => (hmatch' 1 1 (-2) 1 (by decide) (by decide) halike y).1⟩

end PlotGrid
