import PlotGrid.Proofs.Fragment.Box
import PlotGrid.Proofs.Overlay.Course
import PlotGrid.Proofs.Overlay.Overflow

/-!
# Fragments that fit

A fragment fits if it is no wider and no longer than the slots that it goes to. The spots of the
voxels of such fragments are all different and within their columns, so each of them is found in
the overlay and none is dropped.

- `Fragments.Fits`: the fragments of a set are no larger than their slots.
- `Site`, `Fragments.sites`: the voxels of fragments, each with a slot.
- `Site.eq_of_spot_eq`: different sites have different spots.
- `Fragments.columnSize?_course`: every column is as high as its own fragment makes it.
- `build_keeps_voxels`: what an overlay of fragments that fit holds.
-/

namespace PlotGrid

/-- The fragments of a set are no larger than their slots; their heights are coordinates. -/
def Fragments.Fits (f : Fragments) (g : Geometry) : Prop :=
  ∀ s c, Slot.clip? f s = some c →
    (c.width : Int) ≤ s.width g ∧ (c.length : Int) ≤ s.length g ∧ Coord.InRange c.height

/-! ## Columns within slots -/

namespace Slot

variable {g : Geometry} {f : Fragments} {c : Clip} {s : Slot}

theorem width_le (h : g.Paved) (s : Slot) : s.width g ≤ greatestSize := by
  obtain ⟨hplot, hroad, hsize⟩ := h
  cases s <;> simp only [width] <;> omega

theorem length_le (h : g.Paved) (s : Slot) : s.length g ≤ greatestSize := by
  obtain ⟨hplot, hroad, hsize⟩ := h
  cases s <;> simp only [length] <;> omega

/-- The edges of a fragment that fits are coordinates. -/
theorem sized_of_fits (h : g.Paved) (hf : f.Fits g) (hc : clip? f s = some c) : c.Sized := by
  obtain ⟨hw, hl, hheight⟩ := hf s c hc
  have hgw := width_le h s
  have hgl := length_le h s
  unfold greatestSize at hgw hgl
  exact ⟨Coord.inRange_iff.mpr ⟨by omega, by omega⟩, hheight,
    Coord.inRange_iff.mpr ⟨by omega, by omega⟩⟩

/-- The column of a slot that a column of a fragment lies in. -/
def nominal (g : Geometry) (c : Clip) (s : Slot) (x z : Nat) : Nat × Nat :=
  (x + (s.inset g c).1.toNat, z + (s.inset g c).2.toNat)

/-- Half of the room around something that fits is within the room. -/
theorem half_room {whole part : Int} (h : part ≤ whole) :
    0 ≤ (whole - part).tdiv 2 ∧ (whole - part).tdiv 2 ≤ whole - part := by
  rw [Int.tdiv_eq_ediv_of_nonneg (by omega)]
  omega

theorem inset_bounds (h : g.Paved) (hf : f.Fits g) (hc : clip? f s = some c) :
    (0 ≤ (s.inset g c).1 ∧ (s.inset g c).1 ≤ s.width g - c.width) ∧
      0 ≤ (s.inset g c).2 ∧ (s.inset g c).2 ≤ s.length g - c.length := by
  have hsized := sized_of_fits h hf hc
  obtain ⟨hw, hl, -⟩ := hf s c hc
  cases s with
  | plot =>
    simp only [width, length] at hw hl
    simp only [inset, width, length, hsized.coordWidth_eq, hsized.coordLength_eq]
    exact ⟨half_room hw, half_room hl⟩
  | straight | turned | crossing =>
    simp only [width, length] at hw hl
    simp only [inset, width, length]
    omega

/-- A column of a fragment that fits is a column of its slot. -/
theorem holds_nominal (h : g.Paved) (hf : f.Fits g) (hc : clip? f s = some c) {x z : Nat}
    (hx : x < c.width) (hz : z < c.length) :
    s.Holds g (s.nominal g c x z).1 (s.nominal g c x z).2 := by
  obtain ⟨⟨hx0, hx1⟩, hz0, hz1⟩ := inset_bounds h hf hc
  simp only [Holds, nominal]
  omega

theorem offset_nominal (h : g.Paved) (hf : f.Fits g) (hc : clip? f s = some c) (x z : Nat) :
    s.offset g (s.nominal g c x z).1 (s.nominal g c x z).2 = s.spot g c x z := by
  obtain ⟨⟨hx0, -⟩, hz0, -⟩ := inset_bounds h hf hc
  unfold spot nominal
  simp only [Int.natCast_add, Int.toNat_of_nonneg hx0, Int.toNat_of_nonneg hz0]

/-- **Columns of fragments that go to one column of the overlay are the same.** -/
theorem eq_of_key_eq (h : g.Paved) (hf : f.Fits g) {s' : Slot} {c' : Clip}
    (hc : clip? f s = some c) (hc' : clip? f s' = some c') {x z x' z' : Nat}
    (hx : x < c.width) (hz : z < c.length) (hx' : x' < c'.width) (hz' : z' < c'.length)
    (hkey : Cell.key (g.plotWidth + g.roadWidth) (s.spot g c x z).1 (s.spot g c x z).2 =
      Cell.key (g.plotWidth + g.roadWidth) (s'.spot g c' x' z').1 (s'.spot g c' x' z').2) :
    s = s' ∧ c = c' ∧ x = x' ∧ z = z' := by
  have hsize : g.plotWidth + g.roadWidth ≤ 32767 := h.size
  -- a key tells the position, and the position tells the column of the slot
  rw [Cell.key_eq_key_iff h.size_pos (by omega), ← offset_nominal h hf hc,
    ← offset_nominal h hf hc'] at hkey
  obtain ⟨hslot, hnx, hnz⟩ := eq_of_offset_emod_eq h (holds_nominal h hf hc hx hz)
    (holds_nominal h hf hc' hx' hz') hkey.1 hkey.2
  have hclip : c = c' := by
    rw [hslot] at hc
    exact Option.some.inj (hc.symm.trans hc')
  rw [hslot, hclip] at hnx hnz
  exact ⟨hslot, hclip, Nat.add_right_cancel hnx, Nat.add_right_cancel hnz⟩

end Slot

/-! ## Sites -/

/-- A voxel of a fragment with a slot that it is placed in. -/
@[ext] structure Site where
  slot : Slot
  clip : Clip
  x : Nat
  z : Nat
  y : Nat
  voxel : Voxel

namespace Site

/-- The number of the column and the index that a site goes to. -/
def spot (plan : Plan) (size : Int) (t : Site) : Nat × Int :=
  (Cell.key size (t.slot.spot plan.geometry t.clip t.x t.z).1
    (t.slot.spot plan.geometry t.clip t.x t.z).2, t.y + t.slot.base plan.anchors)

/-- The placement of a site. -/
def placement (plan : Plan) (t : Site) : Placement :=
  t.slot.voxelPlacement plan t.clip t.x t.z (t.y, t.voxel)

/-- A site of a set of fragments: its slot is filled by its clip, which has its voxel. -/
structure Of (f : Fragments) (t : Site) : Prop where
  clip : Slot.clip? f t.slot = some t.clip
  column : (t.x, t.z) ∈ t.clip.columnList
  voxel : (t.y, t.voxel) ∈ t.clip.solids t.x t.z

end Site

/-- The sites of a fragment in its slots. -/
def Clip.sites (c : Clip) (slots : List Slot) : List Site :=
  c.columnList.flatMap fun (x, z) =>
    (c.solids x z).flatMap fun (y, v) => slots.map fun s => ⟨s, c, x, z, y, v⟩

/-- The sites of a set of fragments. -/
def Fragments.sites (f : Fragments) (g : Geometry) : List Site :=
  (f.fillings g).flatMap fun filling => filling.1.sites filling.2

theorem Clip.mem_sites_iff {c : Clip} {slots : List Slot} {t : Site} :
    t ∈ c.sites slots ↔ t.slot ∈ slots ∧ t.clip = c ∧ (t.x, t.z) ∈ c.columnList ∧
      (t.y, t.voxel) ∈ c.solids t.x t.z := by
  simp only [sites, List.mem_flatMap, List.mem_map]
  constructor
  · rintro ⟨⟨x, z⟩, hcol, ⟨y, v⟩, hcell, s, hs, rfl⟩
    exact ⟨hs, rfl, hcol, hcell⟩
  · obtain ⟨s, c', x, z, y, v⟩ := t
    rintro ⟨hs, rfl, hcol, hcell⟩
    exact ⟨(x, z), hcol, (y, v), hcell, s, hs, rfl⟩

/-- No voxel is placed twice in one slot. -/
theorem Clip.nodup_sites {c : Clip} {slots : List Slot} (hslots : slots.Nodup) :
    (c.sites slots).Nodup := by
  -- sites differ in column, within a column in cell, and within a cell in slot
  refine List.pairwise_flatMap.mpr ⟨fun column _ => ?_, ?_⟩
  · obtain ⟨x, z⟩ := column
    refine List.pairwise_flatMap.mpr ⟨fun cell _ => ?_, ?_⟩
    · exact hslots.map fun s s' h => congrArg Site.slot h
    · refine (nodup_solids x z).imp fun hne a ha b hb hab => hne ?_
      obtain ⟨s, -, rfl⟩ := List.mem_map.mp ha
      obtain ⟨s', -, rfl⟩ := List.mem_map.mp hb
      exact Prod.ext (congrArg Site.y hab) (congrArg Site.voxel hab)
  · refine nodup_columnList.imp fun hne a ha b hb hab => hne ?_
    simp only [List.mem_flatMap, List.mem_map] at ha hb
    obtain ⟨_, _, s, -, rfl⟩ := ha
    obtain ⟨_, _, s', -, rfl⟩ := hb
    exact Prod.ext (congrArg Site.x hab) (congrArg Site.z hab)

namespace Fragments

variable {f : Fragments} {g : Geometry}

/-- The slots of one fragment are different, and no slot takes two fragments. -/
theorem fillings_apart : (∀ filling ∈ f.fillings g, filling.2.Nodup) ∧
    (f.fillings g).Pairwise fun a b => ∀ s ∈ a.2, s ∉ b.2 := by
  unfold fillings
  split <;> cases f.plot <;> cases f.sideroad <;> cases f.intersection <;> simp

theorem nodup_sites : (f.sites g).Nodup := by
  obtain ⟨hslots, hapart⟩ := fillings_apart (f := f) (g := g)
  refine List.pairwise_flatMap.mpr
    ⟨fun filling hfill => Clip.nodup_sites (hslots filling hfill), ?_⟩
  refine hapart.imp ?_
  intro _ _ hne a ha b hb hab
  subst hab
  exact hne a.slot (Clip.mem_sites_iff.mp ha).1 (Clip.mem_sites_iff.mp hb).1

/-- Which fragments are placed, and where. -/
theorem exists_filling_iff {s : Slot} {c : Clip} :
    (∃ slots, (c, slots) ∈ f.fillings g ∧ s ∈ slots) ↔
      Slot.clip? f s = some c ∧ (s ≠ .plot → f.hasRoad g = true) := by
  have hfill (c? : Option Clip) (l : List Slot) (slots : List Slot) :
      (c, slots) ∈ (c?.map fun c => (c, l)).toList ↔ c? = some c ∧ slots = l := by
    cases c? <;> simp [eq_comm]
  by_cases hroad : f.hasRoad g = true
  · simp only [fillings, if_pos hroad, List.mem_append, hfill]
    cases s <;> simp [Slot.clip?, hroad, or_and_right, exists_or, and_assoc]
  · simp only [fillings, if_neg hroad, List.append_nil, hfill]
    cases s <;> simp [Slot.clip?, hroad]

theorem mem_sites_iff {t : Site} :
    t ∈ f.sites g ↔ t.Of f ∧ (t.slot ≠ .plot → f.hasRoad g = true) := by
  simp only [sites, List.mem_flatMap, Prod.exists, Clip.mem_sites_iff]
  constructor
  · rintro ⟨c, slots, hfill, hs, rfl, hcol, hcell⟩
    obtain ⟨hclip, hroad⟩ := exists_filling_iff.mp ⟨slots, hfill, hs⟩
    exact ⟨⟨hclip, hcol, hcell⟩, hroad⟩
  · rintro ⟨⟨hclip, hcol, hcell⟩, hroad⟩
    obtain ⟨slots, hfill, hs⟩ := exists_filling_iff.mpr ⟨hclip, hroad⟩
    exact ⟨t.clip, slots, hfill, hs, rfl, hcol, hcell⟩

variable {plan : Plan}

/-- What a course has besides biomes is the placements of sites. -/
theorem filterMap_course {β : Type} {φ : Placement → Option β}
    (hbiome : ∀ x z tag, φ (.biome x z tag) = Option.none) :
    (f.course plan).filterMap φ =
      (f.sites plan.geometry).filterMap fun t => φ (t.placement plan) := by
  -- both lists are nested alike; only the biomes at the end of each column are left out
  rw [course, sites, List.filterMap_flatMap, List.filterMap_flatMap]
  refine List.flatMap_congr ?_
  intro filling _
  rw [Clip.course, Clip.sites, List.filterMap_flatMap, List.filterMap_flatMap]
  refine List.flatMap_congr ?_
  intro column _
  obtain ⟨x, z⟩ := column
  dsimp only
  have hbiomes : (filling.2.map (Slot.biomePlacement plan filling.1 x z)).filterMap φ = [] := by
    rw [List.filterMap_map]
    exact List.filterMap_eq_nil_iff.mpr fun s _ => hbiome ..
  rw [List.filterMap_append, hbiomes, List.append_nil, List.filterMap_flatMap,
    List.filterMap_flatMap]
  refine List.flatMap_congr ?_
  intro cell _
  rw [List.filterMap_map, List.filterMap_map]
  rfl

/-- A placement of a course is that of a site or puts a biome. -/
theorem of_mem_course {p : Placement} (hp : p ∈ f.course plan) :
    (∃ t ∈ f.sites plan.geometry, p = t.placement plan) ∨ ∃ x z tag, p = .biome x z tag := by
  cases p with
  | biome x z tag => exact .inr ⟨x, z, tag, rfl⟩
  | voxel x y z v isTurned height =>
    -- everything but biomes, to read the course through its sites
    let φ : Placement → Option Placement
      | .biome _ _ _ => Option.none
      | q => some q
    have hmem : Placement.voxel x y z v isTurned height ∈ (f.course plan).filterMap φ :=
      List.mem_filterMap.mpr ⟨_, hp, rfl⟩
    rw [filterMap_course fun _ _ _ => rfl] at hmem
    obtain ⟨t, ht, hφ⟩ := List.mem_filterMap.mp hmem
    exact .inl ⟨t, ht, (Option.some.inj hφ).symm⟩

end Fragments

/-! ## Different sites -/

namespace Site

variable {f : Fragments} {plan : Plan} {t t' : Site}

/-- The column of a site is one of its fragment. -/
theorem Of.bounds (h : plan.geometry.Paved) (hf : f.Fits plan.geometry) (ht : t.Of f) :
    t.x < t.clip.width ∧ t.z < t.clip.length :=
  (Slot.sized_of_fits h hf ht.clip).mem_columnList_iff.mp ht.column

/-- Sites in one column of the overlay come from one column of one fragment. -/
theorem eq_of_key_eq (h : plan.geometry.Paved) (hf : f.Fits plan.geometry) (ht : t.Of f)
    (ht' : t'.Of f)
    (hkey : (t.spot plan (plan.geometry.plotWidth + plan.geometry.roadWidth)).1 =
      (t'.spot plan (plan.geometry.plotWidth + plan.geometry.roadWidth)).1) :
    t.slot = t'.slot ∧ t.clip = t'.clip ∧ t.x = t'.x ∧ t.z = t'.z := by
  obtain ⟨hx, hz⟩ := ht.bounds h hf
  obtain ⟨hx', hz'⟩ := ht'.bounds h hf
  exact Slot.eq_of_key_eq h hf ht.clip ht'.clip hx hz hx' hz' hkey

/-- **Different sites have different spots.** -/
theorem eq_of_spot_eq (h : plan.geometry.Paved) (hf : f.Fits plan.geometry) (ht : t.Of f)
    (ht' : t'.Of f)
    (hspot : t.spot plan (plan.geometry.plotWidth + plan.geometry.roadWidth) =
      t'.spot plan (plan.geometry.plotWidth + plan.geometry.roadWidth)) : t = t' := by
  obtain ⟨hslot, hclip, hx, hz⟩ := eq_of_key_eq h hf ht ht' (congrArg Prod.fst hspot)
  have hindex : (t.y : Int) + t.slot.base plan.anchors = t'.y + t'.slot.base plan.anchors :=
    congrArg Prod.snd hspot
  have hy : t.y = t'.y := by
    rw [hslot] at hindex
    omega
  have hvoxel : t.voxel = t'.voxel := by
    rw [(Clip.mem_solids_iff.mp ht.voxel).2.1, (Clip.mem_solids_iff.mp ht'.voxel).2.1, hclip, hx,
      hy, hz]
  exact Site.ext hslot hclip hx hz hy hvoxel

end Site

/-! ## The content of an overlay -/

namespace Slot

variable {f : Fragments} {g : Geometry} {settings : SchematicSettings} {a : Anchors} {c : Clip}
  {s : Slot}

theorem base_nonneg (ha : f.anchors g settings = .ok a) (hc : clip? f s = some c) :
    0 ≤ s.base a := by
  obtain ⟨hplot, hroad⟩ := Anchors.nonneg_of_compute ha
  cases s with
  | plot =>
    refine hplot ?_
    rw [show f.plot = some c from hc]
    rfl
  | straight | turned =>
    refine hroad ?_
    rw [show f.sideroad = some c from hc]
    rfl
  | crossing =>
    refine hroad ?_
    rw [show f.intersection = some c from hc]
    cases f.sideroad <;> rfl

/-- A fragment's voxels end below the height of its columns. -/
theorem base_add_lt (plan : Plan) (c : Clip) (s : Slot) {y : Nat} (hy : (y : Int) < c.coordHeight) :
    y + s.base plan.anchors < s.columnHeight plan c := by
  have hextra : 0 ≤ plan.extra := by
    unfold Plan.extra
    split <;> omega
  cases s <;> simp only [base, columnHeight] <;> omega

end Slot

namespace Fragments

variable {f : Fragments} {plan : Plan} {reg : Registry} {blank : Overlay} {t : Site}

/-- The overlay after a course. -/
def finished (f : Fragments) (reg : Registry) (plan : Plan) (blank : Overlay) : Draft :=
  (f.course plan).foldl (Draft.place reg) ⟨blank, []⟩

/-- What an overlay is before the first placement on a paved cell. -/
structure Blank (plan : Plan) (blank : Overlay) : Prop where
  size : blank.size = plan.geometry.plotWidth + plan.geometry.roadWidth
  columns : blank.columns = ∅

theorem Blank.of_start {g : Geometry} {s : SchematicSettings} (h : g.Paved)
    (hstart : Overlay.start g s f = .ok blank) : Blank ⟨g, s, blank.anchors⟩ blank := by
  obtain ⟨-, hsize, -, hcolumns, -⟩ := Overlay.start_eq_ok hstart
  exact ⟨Except.ok.inj (hsize.symm.trans h.size_eq_ok), hcolumns⟩

theorem Blank.columnSize?_eq (hblank : Blank plan blank) (key : Nat) :
    blank.columnSize? key = Option.none := by
  rw [Overlay.columnSize?, hblank.columns, Std.HashMap.getElem?_empty]
  rfl

theorem Blank.held?_eq (hblank : Blank plan blank) (key i : Nat) :
    blank.held? key i = Option.none := by
  rw [Overlay.held?, hblank.columns, Std.HashMap.getElem?_empty]
  rfl

theorem Blank.voxels_eq (hblank : Blank plan blank) : blank.voxels = [] := by
  rw [Overlay.voxels, hblank.columns, Std.HashMap.toList_empty]
  rfl

/-- A fragment beside the plot is placed iff the roads have a width. -/
theorem hasRoad_iff_of_clip? {g : Geometry} {s : Slot} {c : Clip} (hc : Slot.clip? f s = some c)
    (hs : s ≠ .plot) : f.hasRoad g = true ↔ g.roadWidth ≠ 0 := by
  rw [hasRoad, Bool.and_eq_true, Bool.or_eq_true, bne_iff_ne]
  refine and_iff_right ?_
  cases s with
  | plot => exact absurd rfl hs
  | straight | turned => exact .inl (Option.isSome_of_mem hc)
  | crossing => exact .inr (Option.isSome_of_mem hc)

/-- A fragment beside the plot is placed if there are roads. -/
theorem hasRoad_of_clip? {g : Geometry} (h : g.Paved) {s : Slot} {c : Clip}
    (hc : Slot.clip? f s = some c) (hs : s ≠ .plot) : f.hasRoad g = true := by
  have hroad := h.road
  exact (hasRoad_iff_of_clip? hc hs).mpr (by omega)

/-- The sites of a cell with roads. -/
theorem mem_sites_iff_of_paved (h : plan.geometry.Paved) :
    t ∈ f.sites plan.geometry ↔ t.Of f := by
  rw [mem_sites_iff]
  exact ⟨fun ht => ht.1, fun ht => ⟨ht, fun hslot => hasRoad_of_clip? h ht.clip hslot⟩⟩

/-- **Every column is as high as its own fragment makes it.** -/
theorem columnSize?_course (h : plan.geometry.Paved) (hf : f.Fits plan.geometry)
    (hblank : Blank plan blank) (ht : t.Of f) :
    (f.finished reg plan blank).overlay.columnSize? (t.spot plan blank.size).1 =
      some (t.slot.columnHeight plan t.clip).toNat := by
  rw [finished, Draft.columnSize?_foldl, hblank.columnSize?_eq, Option.none_or,
    ← List.head?_filterMap, filterMap_course fun _ _ _ => rfl, List.head?_filterMap]
  -- whatever else asks for this column comes from the same fragment
  refine findSome?_eq_some_of_unique ((mem_sites_iff_of_paved h).mpr ht) (if_pos rfl) ?_
  intro t' ht' height hheight
  simp only [Site.placement, Slot.voxelPlacement, Placement.heightAt?] at hheight
  split at hheight
  · rename_i hkey
    rw [hblank.size] at hkey
    obtain ⟨hslot, hclip, -⟩ :=
      Site.eq_of_key_eq h hf ((mem_sites_iff_of_paved h).mp ht') ht hkey
    rw [← Option.some.inj hheight, hslot, hclip]
  · cases hheight

/-- The voxels of fragments that fit are within their columns. -/
theorem fits_course {settings : SchematicSettings} (h : plan.geometry.Paved)
    (hf : f.Fits plan.geometry) (hblank : Blank plan blank)
    (ha : f.anchors plan.geometry settings = .ok plan.anchors) :
    ∀ p ∈ f.course plan,
      p.Fits blank.size (f.finished reg plan blank).overlay.columnSize? := by
  intro p hp
  rcases of_mem_course hp with ⟨t, ht, rfl⟩ | ⟨x, z, tag, rfl⟩
  · have ht := (mem_sites_iff_of_paved h).mp ht
    have hy := (Clip.mem_solids_iff.mp ht.voxel).1
    have hbase := Slot.base_nonneg ha ht.clip
    have hlt := Slot.base_add_lt plan t.clip t.slot (y := t.y) (by omega)
    exact ⟨_, columnSize?_course h hf hblank ht, by omega, by omega⟩
  · trivial

/-- No two voxels of fragments that fit go to one cell. -/
theorem nodup_spots (h : plan.geometry.Paved) (hf : f.Fits plan.geometry)
    (hblank : Blank plan blank) :
    ((f.course plan).filterMap (Placement.spot? blank.size)).Nodup := by
  rw [filterMap_course fun _ _ _ => rfl, hblank.size]
  have hspot : ((f.sites plan.geometry).map
      (Site.spot plan (plan.geometry.plotWidth + plan.geometry.roadWidth))).Nodup := by
    refine nodup_sites.map_on ?_
    intro t ht t' ht' heq
    rw [mem_sites_iff_of_paved h] at ht ht'
    exact Site.eq_of_spot_eq h hf ht ht' heq
  rw [← List.filterMap_eq_map] at hspot
  exact hspot

/-- **Every voxel of fragments that fit is found at its spot.** -/
theorem held?_course {settings : SchematicSettings} (reg : Registry) (h : plan.geometry.Paved)
    (hf : f.Fits plan.geometry) (hblank : Blank plan blank)
    (ha : f.anchors plan.geometry settings = .ok plan.anchors) (ht : t.Of f) :
    (f.finished reg plan blank).overlay.held? (t.spot plan blank.size).1
      (t.spot plan blank.size).2.toNat = some (t.slot.shown reg t.voxel) := by
  have hy := (Clip.mem_solids_iff.mp ht.voxel).1
  have hbase := Slot.base_nonneg ha ht.clip
  have hlt := Slot.base_add_lt plan t.clip t.slot (y := t.y) (by omega)
  have hindex : ((t.spot plan blank.size).2.toNat : Int) = t.y + t.slot.base plan.anchors :=
    Int.toNat_of_nonneg (a := t.y + t.slot.base plan.anchors) (by omega)
  have hin : (t.spot plan blank.size).2.toNat < (t.slot.columnHeight plan t.clip).toNat := by
    omega
  rw [finished, Draft.held?_foldl (columnSize?_course h hf hblank ht) hin,
    hblank.held?_eq, Option.or_none, ← List.head?_filterMap, List.filterMap_reverse,
    filterMap_course fun _ _ _ => rfl, ← List.filterMap_reverse, List.head?_filterMap]
  -- no other placement goes to the spot, so it does not matter which one is last
  refine findSome?_eq_some_of_unique
    (List.mem_reverse.mpr ((mem_sites_iff_of_paved h).mpr ht)) ?_ ?_
  · rw [Placement.voxelAt?, hindex]
    exact if_pos rfl
  · intro t' ht' v hv
    have ht' := (mem_sites_iff_of_paved h).mp (List.mem_reverse.mp ht')
    rw [Placement.voxelAt?, hindex] at hv
    split at hv
    · rename_i hspot
      have hspot := Option.some.inj hspot
      rw [hblank.size] at hspot
      have heq := Site.eq_of_spot_eq h hf ht' ht hspot
      subst heq
      exact (Option.some.inj hv).symm
    · cases hv

end Fragments

/-! ## Counts -/

theorem Registry.isEntity_turn (reg : Registry) (v : Voxel) :
    (reg.turn v).isEntity = v.isEntity := by
  show (v.rot.map _).isSome = v.rot.isSome
  rw [Option.isSome_map]

theorem Slot.isEntity_shown (reg : Registry) (s : Slot) (v : Voxel) :
    (s.shown reg v).isEntity = v.isEntity := by
  unfold shown
  split
  · exact reg.isEntity_turn v
  · rfl

/-- The number of voxels of a clip with a property that are not air. -/
def Clip.countSolid (c : Clip) (p : Voxel → Bool) : Nat :=
  c.voxels.toList.countP fun v => p v && !v.isAir

/-- The sum of a number over the fragments of a set, each as often as it is placed. -/
def Fragments.tally (f : Fragments) (n : Clip → Nat) : Nat :=
  (f.plot.map n).getD 0 + 2 * (f.sideroad.map n).getD 0 + (f.intersection.map n).getD 0

/-- Lists for the entries of a list, all counted a number of times as often as others. -/
theorem countP_flatMap_eq_mul {α β γ : Type} {p : β → Bool} {q : γ → Bool} {l : List α}
    {f : α → List β} {g : α → List γ} {n : Nat}
    (h : ∀ a ∈ l, (f a).countP p = n * (g a).countP q) :
    (l.flatMap f).countP p = n * (l.flatMap g).countP q := by
  induction l with
  | nil => rfl
  | cons a rest ih =>
    rw [List.flatMap_cons, List.flatMap_cons, List.countP_append, List.countP_append,
      h a List.mem_cons_self, ih fun b hb => h b (List.mem_cons_of_mem a hb), Nat.mul_add]

/-- Every voxel of a fragment that is not air has one site in each slot. -/
theorem Clip.countP_sites {c : Clip} (hsized : c.Sized) (slots : List Slot) (p : Voxel → Bool) :
    (c.sites slots).countP (fun t => p t.voxel) = slots.length * c.countSolid p := by
  -- count the voxels in the order in which the build reads them
  have hread : c.countSolid p =
      (c.columnList.flatMap fun (x, z) => (c.solids x z).map (·.2)).countP p := by
    rw [(solids_perm hsized).countP_eq, List.countP_filter]
    rfl
  rw [hread, sites]
  refine countP_flatMap_eq_mul ?_
  intro column _
  obtain ⟨x, z⟩ := column
  dsimp only
  rw [← List.flatMap_pure_eq_map]
  refine countP_flatMap_eq_mul ?_
  intro cell _
  rw [List.countP_map]
  show slots.countP (fun _ => p cell.2) = slots.length * [cell.2].countP p
  cases hp : p cell.2 <;> simp [hp]

theorem Clip.countP_filling {c? : Option Clip} (hsized : ∀ c, c? = some c → c.Sized)
    (slots : List Slot) (p : Voxel → Bool) :
    ((c?.map fun c => (c, slots)).toList.flatMap fun filling =>
        filling.1.sites filling.2).countP (fun t => p t.voxel) =
      slots.length * (c?.map fun c => c.countSolid p).getD 0 := by
  cases c? with
  | none => rfl
  | some c =>
    rw [Option.map_some, Option.map_some, Option.toList_some, List.flatMap_singleton,
      Option.getD_some, countP_sites (hsized c rfl)]

/-- **Every voxel of fragments that fit is placed once in each slot.** -/
theorem Fragments.countP_sites {f : Fragments} {g : Geometry} (h : g.Paved) (hf : f.Fits g)
    (p : Voxel → Bool) :
    (f.sites g).countP (fun t => p t.voxel) = f.tally fun c => c.countSolid p := by
  have hplot (c : Clip) (hc : f.plot = some c) : c.Sized :=
    Slot.sized_of_fits (s := .plot) h hf hc
  have harms (c : Clip) (hc : f.sideroad = some c) : c.Sized :=
    Slot.sized_of_fits (s := .straight) h hf hc
  have hcrossing (c : Clip) (hc : f.intersection = some c) : c.Sized :=
    Slot.sized_of_fits (s := .crossing) h hf hc
  rw [sites, fillings, List.flatMap_append, List.countP_append, Clip.countP_filling hplot, tally]
  by_cases hroad : f.hasRoad g = true
  · rw [if_pos hroad, List.flatMap_append, List.countP_append,
      Clip.countP_filling harms, Clip.countP_filling hcrossing]
    simp only [List.length_cons, List.length_nil]
    omega
  · -- the cell has roads, so there are no fragments to be left out
    have hwidth : (g.roadWidth != 0) = true := bne_iff_ne.mpr (by have := h.road; omega)
    rw [if_neg hroad]
    rw [hasRoad, hwidth, Bool.and_true, Bool.or_eq_true, not_or, Option.not_isSome_iff_eq_none,
      Option.not_isSome_iff_eq_none] at hroad
    rw [hroad.1, hroad.2]
    simp only [List.length_cons, List.length_nil, List.flatMap_nil, List.countP_nil,
      Option.map_none, Option.getD_none]
    omega

/-! ## Overlays of fragments that fit -/

/-- The voxels of an overlay are those of the fragments. -/
theorem Fragments.voxels_finished_perm {f : Fragments} {plan : Plan} {reg : Registry}
    {blank : Overlay} {settings : SchematicSettings} (h : plan.geometry.Paved)
    (hf : f.Fits plan.geometry) (hblank : Blank plan blank)
    (ha : f.anchors plan.geometry settings = .ok plan.anchors) :
    (f.finished reg plan blank).overlay.voxels.Perm
      ((f.sites plan.geometry).map fun t => t.slot.shown reg t.voxel) := by
  have hperm : (f.finished reg plan blank).overlay.voxels.Perm _ :=
    Draft.voxels_foldl_perm (d := ⟨blank, []⟩) (fits_course h hf hblank ha)
      (nodup_spots h hf hblank) fun _ _ _ _ _ => hblank.held?_eq ..
  rw [hblank.voxels_eq, List.append_nil, filterMap_course fun _ _ _ => rfl] at hperm
  rw [← List.filterMap_eq_map]
  exact hperm

/-- The number of voxels of an overlay with a property that a turn keeps. -/
theorem Fragments.countP_finished {f : Fragments} {plan : Plan} {reg : Registry} {blank : Overlay}
    {settings : SchematicSettings} (h : plan.geometry.Paved) (hf : f.Fits plan.geometry)
    (hblank : Blank plan blank) (ha : f.anchors plan.geometry settings = .ok plan.anchors)
    {p : Voxel → Bool} (hp : ∀ (s : Slot) v, p (s.shown reg v) = p v) :
    (f.finished reg plan blank).overlay.voxels.countP p = f.tally fun c => c.countSolid p := by
  rw [(voxels_finished_perm h hf hblank ha).countP_eq, List.countP_map, ← countP_sites h hf p]
  exact List.countP_congr fun t _ => by rw [Function.comp_apply, hp]

/-- Every voxel of a fragment that fits is in the overlay, at its own height above the base of its
slot, in the column at its spot. -/
theorem Overlay.cell?_of_build {reg : Registry} {g : Geometry} {settings : SchematicSettings}
    {f : Fragments} {o : Overlay} {notices : Array Notice} (h : g.Paved) (hf : f.Fits g)
    (hexec : (build reg g settings f).exec = (.ok o, notices)) {s : Slot} {c : Clip}
    (hc : Slot.clip? f s = some c) {x y z : Nat} (hx : x < c.width) (hy : y < c.height)
    (hz : z < c.length) (hair : (c.cell x y z).isAir = false) :
    o.cell? (s.spot g c x z).1 (s.spot g c x z).2 (s.base o.anchors + y) =
      some (s.shown reg (c.cell x y z)) := by
  obtain ⟨blank, hstart, -, d, hd, -, rfl, -⟩ := build_eq_ok hexec
  have hanchors := (start_eq_ok hstart).1
  have hblank := Fragments.Blank.of_start h hstart
  have hfinal : d.overlay.anchors = blank.anchors := by
    rw [hd, Draft.anchors_foldl]
  have hsized := Slot.sized_of_fits h hf hc
  -- the voxel as a site of the fragments
  have ht : Site.Of f ⟨s, c, x, z, y, c.cell x y z⟩ := by
    refine ⟨hc, hsized.mem_columnList_iff.mpr ⟨hx, hz⟩, Clip.mem_solids_iff.mpr ?_⟩
    rw [hsized.coordHeight_eq]
    exact ⟨hy, rfl, hair⟩
  have hbase := Slot.base_nonneg hanchors hc
  have hsize : d.overlay.size = blank.size := by
    rw [hd, Draft.size_foldl]
  have hheld := Fragments.held?_course reg h hf hblank hanchors ht
  rw [Fragments.finished, ← hd] at hheld
  rw [Overlay.cell?, hfinal, if_pos (by omega), hsize, Int.add_comm]
  exact hheld

/-- **Fragments that fit lose nothing.** A build that does not overflow has a result and reports
nothing; it drops no voxel; the counts are those of the fragments; and every voxel that is not air
is at its own height above the base of its slot, in the column at its spot. -/
theorem build_keeps_voxels {reg : Registry} {g : Geometry} {settings : SchematicSettings}
    {f : Fragments} (h : g.Paved) (hf : f.Fits g)
    (hrun : (Overlay.build reg g settings f).exec.1 ≠ .error .overflow) :
    ∃ o, (Overlay.build reg g settings f).exec = (.ok o, #[]) ∧
      f.anchors g settings = .ok o.anchors ∧
      (∀ blank, Overlay.start g settings f = .ok blank →
        (Draft.placeAll reg ⟨blank, []⟩ (f.placements g settings blank.anchors)).1.dropped = []) ∧
      o.summary.voxels = f.tally Clip.solidCount ∧
      o.summary.entityVoxels = f.tally (fun c => c.countSolid Voxel.isEntity) ∧
      ∀ s c, Slot.clip? f s = some c → ∀ x y z, x < c.width → y < c.height → z < c.length →
        (c.cell x y z).isAir = false →
          o.cell? (s.spot g c x z).1 (s.spot g c x z).2 (s.base o.anchors + y) =
            some (s.shown reg (c.cell x y z)) := by
  obtain ⟨o, notices, hexec⟩ := Overlay.exists_build_eq h hrun
  obtain ⟨blank, hstart, -, d, hd, hall, rfl, rfl⟩ := Overlay.build_eq_ok hexec
  have hanchors := (Overlay.start_eq_ok hstart).1
  have hblank := Fragments.Blank.of_start h hstart
  have hdropped : d.dropped = [] := by
    rw [hd]
    exact Draft.dropped_foldl (Fragments.fits_course h hf hblank hanchors)
  have hfinal : d.overlay.anchors = blank.anchors := by
    rw [hd, Draft.anchors_foldl]
  have hcount {p : Voxel → Bool} (hp : ∀ (s : Slot) v, p (s.shown reg v) = p v) :
      d.overlay.voxels.countP p = f.tally fun c => c.countSolid p := by
    rw [hd]
    exact Fragments.countP_finished h hf hblank hanchors hp
  refine ⟨d.overlay, ?_, hfinal ▸ hanchors, ?_, ?_, ?_, ?_⟩
  · -- the reports are those of dropped voxels
    rw [hexec, hdropped]
    rfl
  · intro blank' hstart'
    rw [hstart] at hstart'
    rw [← Except.ok.inj hstart', hall]
    exact hdropped
  · -- the total counts the voxels with a property that all of them have
    have hall := hcount (p := fun _ => true) fun _ _ => rfl
    rw [List.countP_true] at hall
    exact hall
  · exact hcount (Slot.isEntity_shown reg)
  · intro s c hc x y z hx hy hz hair
    exact Overlay.cell?_of_build h hf hexec hc hx hy hz hair

/-- A build whose placements can all be computed does not overflow. -/
theorem Overlay.ne_overflow_of_start {reg : Registry} {g : Geometry} {settings : SchematicSettings}
    {f : Fragments} {blank : Overlay} (hstart : start g settings f = .ok blank)
    (hall : (f.placements g settings blank.anchors).all (·.isOk) = true) :
    (build reg g settings f).exec.1 ≠ .error .overflow := by
  have hno : NoFault (f.placements g settings blank.anchors) := by
    intro r hr
    cases r with
    | ok p => exact ⟨p, rfl⟩
    | error fault => cases List.all_eq_true.mp hall _ hr
  rw [exec_build_of_noFault hstart hno]
  intro hfault
  cases hfault

theorem Overlay.ne_overflow_of_isOk {reg : Registry} {g : Geometry} {settings : SchematicSettings}
    {f : Fragments} {a : Anchors} (h : g.Paved) (ha : f.anchors g settings = .ok a)
    (hall : (f.placements g settings a).all (·.isOk) = true) :
    (build reg g settings f).exec.1 ≠ .error .overflow := by
  obtain ⟨blank, hstart, hanchors⟩ :
      ∃ blank, start g settings f = .ok blank ∧ blank.anchors = a := by
    rw [start, ha, h.size_eq_ok]
    simp only [bind, Except.bind, empty?, if_pos h.size_pos]
    exact ⟨_, rfl, rfl⟩
  subst hanchors
  exact ne_overflow_of_start hstart hall

/-! ## A small cell -/

/-- A registry without types. -/
def Registry.blank : Registry :=
  ⟨#[], ∅, #[], ∅, none⟩

/-- A post with a sign on it, and a road of full length. -/
def Fragments.small : Fragments where
  plot := some ⟨1, 2, 1, #v[⟨⟨1, 0⟩, .none⟩, ⟨⟨2, 0⟩, some 4⟩], #v[.none]⟩
  sideroad := some ⟨1, 1, 2, #v[⟨⟨1, 0⟩, .none⟩, ⟨⟨2, 0⟩, some 8⟩], #v[.none, some 3]⟩
  intersection := .none

theorem Fragments.small_fits : Fragments.small.Fits Geometry.small := by
  intro s c hc
  cases s with
  | plot | straight | turned =>
    cases hc
    decide
  | crossing => cases hc

theorem Fragments.small_anchors : Fragments.small.anchors .small .default = .ok ⟨3, 0, 1⟩ := by
  decide +kernel

theorem Overlay.small_runs (reg : Registry) :
    (Overlay.build reg .small .default .small).exec.1 ≠ .error .overflow :=
  ne_overflow_of_isOk Geometry.small_paved Fragments.small_anchors (by decide +kernel)

/-- On a small cell the sign is counted once and each road voxel twice. -/
theorem build_keeps_small : ∃ o, (Overlay.build .blank .small .default .small).exec = (.ok o, #[]) ∧
    o.summary.voxels = 6 ∧ o.summary.entityVoxels = 3 ∧
    o.cell? 1 1 1 = some ⟨⟨2, 0⟩, some 4⟩ ∧ o.cell? 2 0 1 = some ⟨⟨2, 0⟩, some 4⟩ := by
  obtain ⟨o, hexec, hanchors, -, hvoxels, hentities, hcells⟩ :=
    build_keeps_voxels Geometry.small_paved Fragments.small_fits (Overlay.small_runs .blank)
  rw [Fragments.small_anchors] at hanchors
  rw [← Except.ok.inj hanchors] at hcells
  refine ⟨o, hexec, hvoxels, hentities, ?_, ?_⟩
  · exact hcells .plot _ rfl 0 1 0 (by decide) (by decide) (by decide) rfl
  · exact hcells .turned _ rfl 0 0 1 (by decide) (by decide) (by decide) rfl

end PlotGrid
