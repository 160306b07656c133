import PlotGrid.Area.Generate
import PlotGrid.Proofs.Bucket.Entries
import PlotGrid.Proofs.Grid.Layout
import PlotGrid.Proofs.Registry.Keys

/-!
# Areas of configurations

What can be relied on in an area that was made from a configuration: its cell is not empty and not
too large, its surfaces are not below its floor, its blocks carry no rotation tags, and its
overlay is empty.

- `Area.Accepted`: an area that was made from a configuration.
- `Bucket.Plain`, `Bucket.plain_of_parse`: buckets without rotation tags.
- `Area.ofConfig_eq_ok`: what an area that is made consists of.
- `Area.Sound`, `Area.Accepted.sound`: what can be relied on.
-/

namespace PlotGrid

/-! ## Buckets -/

namespace Bucket

/-- No voxel of a bucket carries a rotation tag. -/
def Plain (b : Bucket) : Prop :=
  ∀ e ∈ b.entries, e.1.isEntity = false

/-- A bucket that was read has no tags. -/
theorem plain_of_parse {reg : Registry} {spec : String} {b : Bucket}
    (h : parse reg spec = .ok b) : b.Plain := by
  refine (parse_induction (fun _ he => absurd he List.not_mem_nil) ?_ h).1
  intro b block n hb _ _ e he
  rcases List.mem_append.mp he with hold | hnew
  · exact hb e hold
  · rw [List.mem_singleton.mp hnew]
    rfl

theorem mem_of_choose {entries : List (Voxel × Nat)} {n : Nat} {v : Voxel}
    (h : choose entries n = some v) : ∃ e ∈ entries, e.1 = v := by
  induction entries generalizing n with
  | nil => cases h
  | cons e rest ih =>
    obtain ⟨w, weight⟩ := e
    unfold choose at h
    split at h
    · exact ⟨(w, weight), List.mem_cons_self, Option.some.inj h⟩
    · obtain ⟨e, he, hv⟩ := ih h
      exact ⟨e, List.mem_cons_of_mem _ he, hv⟩

/-- The voxels that a bucket without tags gives have no tags. -/
theorem isEntity_pick {b : Bucket} (hb : b.Plain) (x y z : Int) :
    (b.pick x y z).isEntity = false := by
  have hfirst : b.first.isEntity = false := by
    unfold first
    split
    · rename_i v w rest hentries
      exact hb (v, w) (hentries ▸ List.mem_cons_self)
    · rfl
  unfold pick
  split
  · exact hfirst
  · cases hchoose : choose b.entries ((positionHash x y z).toNat % b.total) with
    | none => exact hfirst
    | some v =>
      obtain ⟨e, he, rfl⟩ := mem_of_choose hchoose
      exact hb e he

end Bucket

/-! ## Areas -/

/-- The buckets of an area. -/
def AreaBlocks.buckets (blocks : AreaBlocks) : List Bucket :=
  [blocks.main, blocks.top, blocks.wall, blocks.wallFilling, blocks.road]

/-- No block of an area carries a rotation tag. -/
structure AreaBlocks.Plain (blocks : AreaBlocks) : Prop where
  main : blocks.main.Plain
  top : blocks.top.Plain
  wall : blocks.wall.Plain
  wallFilling : blocks.wallFilling.Plain
  road : blocks.road.Plain
  bedrock : ∀ v, blocks.bedrock = some v → v.isEntity = false

theorem AreaBlocks.Plain.of_mem_buckets {blocks : AreaBlocks} (h : blocks.Plain) {b : Bucket}
    (hb : b ∈ blocks.buckets) : b.Plain := by
  simp only [buckets, List.mem_cons, List.not_mem_nil, or_false] at hb
  rcases hb with rfl | rfl | rfl | rfl | rfl
  · exact h.main
  · exact h.top
  · exact h.wall
  · exact h.wallFilling
  · exact h.road

/-- The dimensions of a configuration that was accepted. -/
structure Geometry.Sound (g : Geometry) : Prop where
  plot : 1 ≤ g.plotWidth
  road : 0 ≤ g.roadWidth
  size : g.plotWidth + g.roadWidth ≤ greatestSize
  wall : g.minGen ≤ g.wallHeight

namespace AreaConfig

variable {cfg : AreaConfig} {reg : Registry} {worldMin worldMax : Int}

/-- Surfaces that pass the check are between the two heights. -/
theorem wall_of_surfaceOutside? {floor ceiling : Int}
    (h : cfg.surfaceOutside? floor ceiling = none) : floor ≤ cfg.wallHeight := by
  have hwall := List.findSome?_eq_none_iff.mp h ("wall_height", cfg.wallHeight) (by simp)
  dsimp only at hwall
  split at hwall
  · cases hwall
  · rename_i hbounds
    omega

/-- Dimensions that pass the checks are those of a cell. -/
theorem geometry_sound {g : Geometry} (h : cfg.geometry worldMin worldMax = .ok (.ok g)) :
    g.Sound := by
  -- the checks in the order in which they are made
  rw [geometry] at h
  split at h
  · cases Except.ok.inj h
  · obtain ⟨aboveFloor, -, h⟩ := Checked.bind_eq_ok_iff.mp h
    split at h
    · cases Except.ok.inj h
    · rename_i hplot
      split at h
      · cases Except.ok.inj h
      · rename_i hroad
        obtain ⟨size, hsize, h⟩ := Checked.bind_eq_ok_iff.mp h
        obtain ⟨-, rfl⟩ := Coord.add_eq_ok_iff.mp hsize
        split at h
        · cases Except.ok.inj h
        · rename_i hwide
          split at h
          · cases Except.ok.inj h
          · rename_i hsurface
            rw [← Except.ok.inj (Except.ok.inj h)]
            exact ⟨Int.not_lt.mp hplot, Int.not_lt.mp hroad, Int.not_lt.mp hwide,
              wall_of_surfaceOutside? hsurface⟩

theorem bucket_plain {field spec : String} {b : Bucket}
    (h : cfg.bucket reg field spec = .ok b) : b.Plain := by
  unfold bucket at h
  split at h
  · rename_i b' hparse
    rw [← Except.ok.inj h]
    exact Bucket.plain_of_parse hparse
  · cases h

theorem bedrock_plain {floor : Option Voxel} (h : cfg.bedrock reg = .ok floor) :
    ∀ v, floor = some v → v.isEntity = false := by
  unfold bedrock at h
  split at h
  · split at h
    · rename_i block _
      intro v hv
      rw [← Except.ok.inj h] at hv
      rw [← Option.some.inj hv]
      rfl
    · cases h
  · intro v hv
    rw [← Except.ok.inj h] at hv
    cases hv

/-- The blocks of an area are those of its fields. -/
theorem blocks_eq_ok {blocks : AreaBlocks} (h : cfg.blocks reg = .ok blocks) :
    cfg.bedrock reg = .ok blocks.bedrock ∧
      cfg.bucket reg "main_block" cfg.mainBlock = .ok blocks.main ∧
      cfg.bucket reg "top_block" cfg.topBlock = .ok blocks.top ∧
      cfg.bucket reg "wall_block" cfg.wallBlock = .ok blocks.wall ∧
      cfg.bucket reg "wall_filling" cfg.wallFilling = .ok blocks.wallFilling ∧
      cfg.bucket reg "road_block" cfg.roadBlock = .ok blocks.road := by
  obtain ⟨floor, hfloor, h⟩ := Checked.bind_eq_ok_iff.mp h
  obtain ⟨main, hmain, h⟩ := Checked.bind_eq_ok_iff.mp h
  obtain ⟨top, htop, h⟩ := Checked.bind_eq_ok_iff.mp h
  obtain ⟨wall, hwall, h⟩ := Checked.bind_eq_ok_iff.mp h
  obtain ⟨wallFilling, hfilling, h⟩ := Checked.bind_eq_ok_iff.mp h
  obtain ⟨road, hroad, h⟩ := Checked.bind_eq_ok_iff.mp h
  rw [← Except.ok.inj h]
  exact ⟨hfloor, hmain, htop, hwall, hfilling, hroad⟩

theorem blocks_plain {blocks : AreaBlocks} (h : cfg.blocks reg = .ok blocks) : blocks.Plain := by
  obtain ⟨hfloor, hmain, htop, hwall, hfilling, hroad⟩ := blocks_eq_ok h
  exact ⟨bucket_plain hmain, bucket_plain htop, bucket_plain hwall, bucket_plain hfilling,
    bucket_plain hroad, bedrock_plain hfloor⟩

end AreaConfig

namespace Area

/-- An area that was made from a configuration. -/
def Accepted (a : Area) : Prop :=
  ∃ reg settings cfg world notices,
    (ofConfig reg settings cfg world).exec = (.ok (.ok a), notices)

/-- What can be relied on in an area that was made from a configuration. -/
structure Sound (a : Area) : Prop where
  geometry : a.geometry.Sound
  blocks : a.blocks.Plain
  overlay : blankOverlay a.geometry a.schematics = .ok a.overlay

/-- The parts of an area that is made are those of its configuration. -/
theorem resolve_eq_ok {reg : Registry} {cfg : AreaConfig} {world : World} {g : Geometry}
    {blocks : AreaBlocks} {biome : Option BiomeTag}
    (h : resolve reg cfg world = .ok (.ok (g, blocks, biome))) :
    cfg.geometry world.minHeight world.maxHeight = .ok (.ok g) ∧ cfg.blocks reg = .ok blocks ∧
      cfg.biomeTag reg = .ok biome := by
  obtain ⟨checked, hchecked, h⟩ := Checked.bind_eq_ok_iff.mp h
  cases checked with
  | error e => cases Except.ok.inj h
  | ok g' =>
    obtain ⟨blocks', hblocks, h⟩ := Checked.bind_eq_ok_iff.mp (Except.ok.inj h)
    obtain ⟨biome', hbiome, h⟩ := Checked.bind_eq_ok_iff.mp h
    cases Except.ok.inj h
    exact ⟨hchecked, hblocks, hbiome⟩

/-- An area that is made has the parts of its configuration and the overlay without fragments. -/
theorem ofConfig_eq_ok {reg : Registry} {settings : Settings} {cfg : AreaConfig} {world : World}
    {a : Area} {notices : Array Notice}
    (h : (ofConfig reg settings cfg world).exec = (.ok (.ok a), notices)) :
    ∃ g blocks biome overlay, resolve reg cfg world = .ok (.ok (g, blocks, biome)) ∧
      blankOverlay g settings.schematics = .ok overlay ∧
      a = ⟨cfg.world, cfg.id, cfg.region.map Region.ofCorners, g, settings.schematics, blocks,
        biome, reg, overlay⟩ := by
  obtain ⟨resolved, _, hresolve, h⟩ := Checked.run_bind_eq_ok_iff.mp h
  rw [Logged.run_ofExcept] at hresolve
  obtain ⟨hresolve, -⟩ := Prod.mk.inj hresolve
  cases resolved with
  | error e => cases Except.ok.inj (Prod.mk.inj h).1
  | ok parts =>
    obtain ⟨g, blocks, biome⟩ := parts
    -- the last step, whatever was reported before it
    have hrest (before : Array Notice) (h : (do
        let overlay ← Logged.ofExcept (blankOverlay g settings.schematics)
        return .ok (Area.mk cfg.world cfg.id (cfg.region.map Region.ofCorners) g
          settings.schematics blocks biome reg overlay) :
          Logged Fault (Except ConfigError Area)).run before = (.ok (.ok a), notices)) :
        ∃ overlay, blankOverlay g settings.schematics = .ok overlay ∧
          a = ⟨cfg.world, cfg.id, cfg.region.map Region.ofCorners, g, settings.schematics, blocks,
            biome, reg, overlay⟩ := by
      obtain ⟨overlay, _, hoverlay, h⟩ := Checked.run_bind_eq_ok_iff.mp h
      rw [Logged.run_ofExcept] at hoverlay
      exact ⟨overlay, (Prod.mk.inj hoverlay).1,
        (Except.ok.inj (Except.ok.inj (Prod.mk.inj h).1)).symm⟩
    refine ⟨g, blocks, biome, ?_⟩
    dsimp only at h
    split at h
    · obtain ⟨_, _, -, h⟩ := Checked.run_bind_eq_ok_iff.mp h
      obtain ⟨_, _, -, h⟩ := Checked.run_bind_eq_ok_iff.mp h
      obtain ⟨overlay, hoverlay, ha⟩ := hrest _ h
      exact ⟨overlay, hresolve, hoverlay, ha⟩
    · obtain ⟨overlay, hoverlay, ha⟩ := hrest _ h
      exact ⟨overlay, hresolve, hoverlay, ha⟩

/-- The parts of a configuration make an area, with the overlay without fragments. -/
theorem accepted_of_parts {reg : Registry} (settings : Settings) (cfg : AreaConfig) (world : World)
    {g : Geometry} {blocks : AreaBlocks} {biome : Option BiomeTag} {overlay : Overlay}
    (hquiet : settings.debug = false)
    (hgeometry : cfg.geometry world.minHeight world.maxHeight = .ok (.ok g))
    (hblocks : cfg.blocks reg = .ok blocks) (hbiome : cfg.biomeTag reg = .ok biome)
    (hoverlay : blankOverlay g settings.schematics = .ok overlay) :
    Accepted ⟨cfg.world, cfg.id, cfg.region.map Region.ofCorners, g, settings.schematics, blocks,
      biome, reg, overlay⟩ := by
  have hresolve : resolve reg cfg world = .ok (.ok (g, blocks, biome)) := by
    rw [resolve, hgeometry]
    show Except.ok (do
      let blocks ← cfg.blocks reg
      let biome ← cfg.biomeTag reg
      return (g, blocks, biome)) = _
    rw [hblocks, hbiome]
    rfl
  refine ⟨reg, settings, cfg, world, #[], ?_⟩
  rw [Logged.exec, ofConfig, Checked.run_bind, hresolve]
  show (do
    if settings.debug then
      let pathUpper ← Logged.ofExcept g.pathUpper
      (cfg.dump g settings.schematics pathUpper).forM (Logged.report .info)
    let overlay ← Logged.ofExcept (blankOverlay g settings.schematics)
    return .ok ⟨cfg.world, cfg.id, cfg.region.map Region.ofCorners, g, settings.schematics, blocks,
      biome, reg, overlay⟩ : Logged Fault (Except ConfigError Area)).run #[] = _
  rw [hquiet, hoverlay]
  rfl

theorem Accepted.sound {a : Area} (h : a.Accepted) : a.Sound := by
  obtain ⟨reg, settings, cfg, world, notices, h⟩ := h
  obtain ⟨g, blocks, biome, overlay, hresolve, hoverlay, rfl⟩ := ofConfig_eq_ok h
  obtain ⟨hgeometry, hblocks, -⟩ := resolve_eq_ok hresolve
  exact ⟨AreaConfig.geometry_sound hgeometry, AreaConfig.blocks_plain hblocks, hoverlay⟩

end Area

/-! ## A small area -/

/-- A registry with one name. -/
def Registry.small : Registry :=
  ⟨#[], (∅ : Std.HashMap String BlockId).insert "stone" 7, #[], ∅, none⟩

/-- A small cell of stone. -/
def AreaConfig.small : AreaConfig :=
  { AreaConfig.plain "world" with
    plotWidth := 2
    roadWidth := 1
    roadHeight := 4
    plotHeight := 3
    wallHeight := 4
    plotBedrock := false
    topBlock := "stone"
    wallBlock := "stone"
    roadBlock := "stone" }

/-- Everything is of stone. -/
def AreaBlocks.small : AreaBlocks :=
  let stone := Bucket.single ⟨⟨7, 0⟩, none⟩
  ⟨stone, stone, stone, stone, stone, none⟩

/-- A small cell of stone without fragments. -/
def Area.small : Area where
  world := "world"
  id := none
  region := none
  geometry := .small
  schematics := .default
  blocks := .small
  biome := none
  registry := .small
  overlay := ⟨3, ⟨3, 0, 1⟩, false, false, ∅, ∅⟩

/-- A name alone is the key of its block in state zero. -/
theorem Registry.blockOfKey?_of_name {reg : Registry} {name : String} {id : BlockId}
    (hplain : '[' ∉ name.toList) (hstrip : stripNamespace name = name)
    (hid : reg.idOf? name = some id) : reg.blockOfKey? name = some ⟨id, 0⟩ := by
  rw [blockOfKey?_of_plain hplain, hstrip, hid]
  rfl

theorem Registry.small_stone : Registry.small.blockOfKey? "stone" = some ⟨7, 0⟩ :=
  blockOfKey?_of_name (by decide) (by decide) Std.HashMap.getElem?_insert_self

theorem Bucket.parse_stone {reg : Registry} {block : Block}
    (hstone : reg.blockOfKey? "stone" = some block) :
    parse reg "stone" = .ok (single ⟨block, none⟩) := by
  have hparts : parts 0 "stone".toList = ["stone".toList] := by decide
  have hpart : addPart reg "stone" empty "stone".toList = .ok (single ⟨block, none⟩) := by
    have htrim : Text.trim "stone".toList = "stone".toList := by decide
    have hkey : keyAndWeight "stone".toList = ("stone".toList, 1) := by decide
    rw [addPart, htrim, if_neg (by decide), hkey]
    dsimp only
    rw [if_neg (by decide), if_neg (by decide), String.ofList_toList, hstone]
    rfl
  rw [parse, hparts, List.foldlM_cons, hpart]
  rfl

/-- Everything above the floor is of stone. -/
theorem AreaConfig.blocks_of_stone {cfg : AreaConfig} {reg : Registry} {floor : Option Voxel}
    (hstone : reg.blockOfKey? "stone" = some ⟨7, 0⟩) (hfloor : cfg.bedrock reg = .ok floor)
    (hnames : [cfg.mainBlock, cfg.topBlock, cfg.wallBlock, cfg.wallFilling, cfg.roadBlock] =
      .replicate 5 "stone") : cfg.blocks reg = .ok { AreaBlocks.small with bedrock := floor } := by
  have hbucket (field : String) : cfg.bucket reg field "stone" =
      .ok (.single ⟨⟨7, 0⟩, none⟩) := by
    rw [bucket, Bucket.parse_stone hstone]
  simp only [List.replicate, List.cons.injEq, and_true] at hnames
  obtain ⟨hmain, htop, hwall, hfilling, hroad⟩ := hnames
  rw [blocks, hfloor, hmain, htop, hwall, hfilling, hroad]
  simp only [hbucket]
  rfl

/-- A small cell of stone is accepted with any region. -/
theorem Area.small_accepted_within (region : Option Corners) :
    { Area.small with region := region.map Region.ofCorners }.Accepted :=
  accepted_of_parts .default { AreaConfig.small with region } ⟨"world", 0, 15⟩ rfl rfl
    (AreaConfig.blocks_of_stone Registry.small_stone rfl rfl) rfl rfl

theorem Area.small_accepted : Area.small.Accepted :=
  small_accepted_within none

end PlotGrid
