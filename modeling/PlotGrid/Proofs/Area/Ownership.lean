import PlotGrid.Proofs.Area.Install

/-!
# Owners of chunks

The first block of a chunk is reduced to a coordinate when a region is looked at. So a chunk whose
blocks are not all coordinates is taken for another one, the chunk it is folded to, and the owner
is the first area that shares a block with that one.

- `Chunk.Covers`, `Region.Meets`: the blocks of a chunk, and regions that share one with it.
- `Chunk.folded`, `Region.intersectsChunk_iff`: what a region is compared with.
- `Atlas.Owner`: the first area that claims a chunk, or none.
- `Atlas.owner_folded`: the owner of a chunk, for every chunk.
- `ownership_is_exact_iff`: the chunks whose owner is the one that shares a block with them.
-/

namespace PlotGrid

/-! ## Chunks -/

namespace Chunk

/-- A block coordinate of a chunk along one axis. -/
def Covers (c n : Int) : Prop :=
  16 * c ≤ n ∧ n ≤ 16 * c + 15

/-- The chunk with coordinates as blocks whose number agrees modulo `2 ^ 28`. -/
def folded (c : Int) : Int :=
  c.bmod 268435456

theorem folded_bounds (c : Int) : -134217728 ≤ folded c ∧ folded c ≤ 134217727 := by
  have hlo : -134217728 ≤ c.bmod 268435456 := Int.le_bmod (by decide)
  have hhi : c.bmod 268435456 < 134217728 := Int.bmod_lt (by decide)
  exact ⟨hlo, Int.le_of_lt_add_one hhi⟩

/-- Exactly the chunks whose blocks are coordinates stay. -/
theorem folded_eq_self_iff {c : Int} : folded c = c ↔ Coord.InRange (16 * c) := by
  rw [Coord.inRange_iff]
  constructor
  · intro h
    have hbounds := folded_bounds c
    omega
  · intro h
    exact Int.bmod_eq_of_le (by omega) (by omega)

/-- The reduced origin of a chunk is the origin of the folded chunk. -/
theorem chunkOrigin_eq (c : Int) : Region.chunkOrigin c = 16 * folded c := by
  have hsplit : c * 16 = 16 * folded c + ((4294967296 : Nat) : Int) * c.bdiv 268435456 := by
    have hdivision := Int.bmod_add_bdiv c 268435456
    rw [folded]
    omega
  have hbounds := folded_bounds c
  rw [Region.chunkOrigin, Coord.wrap, hsplit, Int.add_mul_bmod_self_left]
  exact Int.bmod_eq_of_le (by omega) (by omega)

/-- Different chunks have no block coordinate in common. -/
theorem Covers.eq {c d n : Int} (hc : Covers c n) (hd : Covers d n) : c = d := by
  obtain ⟨hlo, hhi⟩ := hc
  obtain ⟨hlo', hhi'⟩ := hd
  omega

end Chunk

/-! ## Regions -/

namespace Region

variable {r : Region}

/-- The lower bounds of a region are not above the upper ones. -/
def Ordered (r : Region) : Prop :=
  r.minX ≤ r.maxX ∧ r.minZ ≤ r.maxZ

theorem ordered_ofCorners (c : Corners) : (ofCorners c).Ordered := by
  constructor
  · show min c.first.1 c.second.1 ≤ max c.first.1 c.second.1
    omega
  · show min c.first.2 c.second.2 ≤ max c.first.2 c.second.2
    omega

theorem contains_iff {x z : Int} :
    r.contains x z = true ↔ r.minX ≤ x ∧ x ≤ r.maxX ∧ r.minZ ≤ z ∧ z ≤ r.maxZ := by
  simp only [contains, Bool.and_eq_true, decide_eq_true_eq, and_assoc]

/-- The region shares a block column with a chunk. -/
def Meets (r : Region) (cx cz : Int) : Prop :=
  ∃ x z, Chunk.Covers cx x ∧ Chunk.Covers cz z ∧ r.contains x z = true

/-- **A region is compared with the folded chunk.** -/
theorem intersectsChunk_iff (hr : r.Ordered) (cx cz : Int) :
    r.intersectsChunk cx cz = true ↔ r.Meets (Chunk.folded cx) (Chunk.folded cz) := by
  simp only [intersectsChunk, Chunk.chunkOrigin_eq, Bool.and_eq_true, decide_eq_true_eq, Meets,
    contains_iff, Chunk.Covers]
  obtain ⟨hx, hz⟩ := hr
  constructor
  · intro h
    -- the least block that both may have along each axis
    exact ⟨max (16 * Chunk.folded cx) r.minX, max (16 * Chunk.folded cz) r.minZ, by omega⟩
  · rintro ⟨x, z, hcx, hcz, hcontains⟩
    omega

end Region

/-! ## Areas -/

namespace Area

variable {a a₀ : Area}

/-- The area is of a world and is unbounded there or shares a block column with a chunk. -/
def Claims (a : Area) (world : String) (cx cz : Int) : Prop :=
  a.world = world ∧ ∀ r, a.region = some r → r.Meets cx cz

theorem VariantOf.region_eq (h : a.VariantOf a₀) : a.region = a₀.region := by
  unfold VariantOf at h
  rw [h]

theorem VariantOf.world_eq (h : a.VariantOf a₀) : a.world = a₀.world := by
  unfold VariantOf at h
  rw [h]

/-- The region of an area that was made is one between two corners. -/
theorem Accepted.ordered (h : a.Accepted) {r : Region} (hr : a.region = some r) : r.Ordered := by
  obtain ⟨reg, settings, cfg, world, notices, h⟩ := h
  obtain ⟨g, blocks, biome, overlay, -, -, rfl⟩ := ofConfig_eq_ok h
  obtain ⟨c, -, rfl⟩ := Option.map_eq_some_iff.mp hr
  exact Region.ordered_ofCorners c

/-- An area is looked up by the folded chunk. -/
theorem claims_iff (hordered : ∀ r, a.region = some r → r.Ordered) (world : String)
    (cx cz : Int) :
    (a.world == world && a.region.all fun r => r.intersectsChunk cx cz) = true ↔
      a.Claims world (Chunk.folded cx) (Chunk.folded cz) := by
  rw [Bool.and_eq_true, beq_iff_eq, Claims]
  refine and_congr_right fun _ => ?_
  cases hregion : a.region with
  | none => simp
  | some r =>
    rw [Option.all_some, Region.intersectsChunk_iff (hordered r hregion)]
    exact ⟨fun h r' hr' => Option.some.inj hr' ▸ h, fun h => h r rfl⟩

end Area

/-! ## Owners -/

namespace Atlas

variable {atlas : Atlas} {world : String} {cx cz : Int}

/-- All areas were made from configurations, whatever was published in them since. -/
def Made (atlas : Atlas) : Prop :=
  ∀ a ∈ atlas, ∃ a₀ : Area, a₀.Accepted ∧ a.VariantOf a₀

/-- The owner of a chunk: the first area that claims it, or none if there is no such area. -/
def Owner (atlas : Atlas) (world : String) (cx cz : Int) : Option Area → Prop
  | some a => ∃ before after, atlas.toList = before ++ a :: after ∧ a.Claims world cx cz ∧
      ∀ b ∈ before, ¬ b.Claims world cx cz
  | none => ∀ a ∈ atlas.toList, ¬ a.Claims world cx cz

theorem Made.ordered (h : atlas.Made) {a : Area} (ha : a ∈ atlas.toList) {r : Region}
    (hr : a.region = some r) : r.Ordered := by
  obtain ⟨a₀, haccepted, hvariant⟩ := h a (Array.mem_toList_iff.mp ha)
  exact haccepted.ordered (hvariant.region_eq ▸ hr)

/-- The area that is looked up is the first that fits. -/
theorem forChunk?_eq (atlas : Atlas) (world : String) (cx cz : Int) :
    atlas.forChunk? world cx cz =
      atlas.toList.find? fun a => a.world == world && a.region.all (·.intersectsChunk cx cz) := by
  rw [forChunk?, inWorld, List.find?_filter]
  congr 1
  funext a
  rw [Bool.eq_iff_iff]
  simp

/-- **The owner of a chunk is the first area that claims the folded chunk.** -/
theorem owner_folded (h : atlas.Made) (world : String) (cx cz : Int) :
    atlas.Owner world (Chunk.folded cx) (Chunk.folded cz) (atlas.forChunk? world cx cz) := by
  have hclaims (a : Area) (ha : a ∈ atlas.toList) :=
    Area.claims_iff (fun _ hr => h.ordered ha hr) world cx cz
  rw [forChunk?_eq]
  cases hfind : atlas.toList.find? _ with
  | none =>
    intro a ha
    rw [← hclaims a ha]
    exact List.find?_eq_none.mp hfind a ha
  | some a =>
    obtain ⟨ha, before, after, hlist, hbefore⟩ := List.find?_eq_some_iff_append.mp hfind
    refine ⟨before, after, hlist, (hclaims a (by simp [hlist])).mp ha, ?_⟩
    intro b hb hclaim
    have hnot := hbefore b hb
    rw [(hclaims b (by simp [hlist, hb])).mpr hclaim] at hnot
    cases hnot

end Atlas

/-! ## Exact owners -/

/-- A small cell that fills the blocks of one chunk. -/
def Area.smallChunk (cx cz : Int) : Area :=
  { Area.small with region := some (.ofCorners ⟨(16 * cx, 16 * cz), (16 * cx + 15, 16 * cz + 15)⟩) }

theorem Area.smallChunk_made (cx cz : Int) : Atlas.Made #[smallChunk cx cz] := by
  intro a ha
  rw [Array.mem_singleton.mp ha]
  exact ⟨_, small_accepted_within (some _), rfl⟩

/-- The small cell claims its own chunk only. -/
theorem Area.claims_smallChunk_iff {cx cz dx dz : Int} :
    (smallChunk cx cz).Claims "world" dx dz ↔ dx = cx ∧ dz = cz := by
  constructor
  · rintro ⟨-, h⟩
    obtain ⟨x, z, hx, hz, hcontains⟩ := h _ rfl
    rw [Region.contains_iff] at hcontains
    simp only [Region.ofCorners] at hcontains
    exact ⟨hx.eq ⟨by omega, by omega⟩, hz.eq ⟨by omega, by omega⟩⟩
  · rintro ⟨rfl, rfl⟩
    refine ⟨rfl, ?_⟩
    intro r hr
    rw [← Option.some.inj hr]
    refine ⟨16 * dx, 16 * dz, ⟨by omega, by omega⟩, ⟨by omega, by omega⟩, ?_⟩
    rw [Region.contains_iff]
    simp only [Region.ofCorners]
    omega

/-- The small cell owns the chunks that are folded to its own. -/
theorem Area.forChunk?_smallChunk (cx cz : Int) :
    Atlas.forChunk? #[smallChunk (Chunk.folded cx) (Chunk.folded cz)] "world" cx cz =
      some (smallChunk (Chunk.folded cx) (Chunk.folded cz)) := by
  have howner := Atlas.owner_folded (smallChunk_made (Chunk.folded cx) (Chunk.folded cz)) "world"
    cx cz
  cases hfind : Atlas.forChunk? #[smallChunk (Chunk.folded cx) (Chunk.folded cz)] "world" cx cz with
  | none =>
    rw [hfind] at howner
    exact absurd (claims_smallChunk_iff.mpr ⟨rfl, rfl⟩) (howner _ (by simp))
  | some a =>
    rw [hfind] at howner
    obtain ⟨before, after, hlist, -, -⟩ := howner
    have hmem := List.mem_append_right before (List.mem_cons_self (a := a) (l := after))
    rw [← hlist] at hmem
    rw [List.mem_singleton.mp hmem]

/-- **The owner of a chunk is exact iff its blocks are coordinates.** For such a chunk and every
list of areas, the owner is the first area of the world that is unbounded or shares a block column
with the chunk, and there is none if no area does. Every other chunk has an owner in some list that
shares no block column with it. -/
theorem ownership_is_exact_iff (cx cz : Int) :
    (∀ atlas : Atlas, atlas.Made → ∀ world,
        atlas.Owner world cx cz (atlas.forChunk? world cx cz)) ↔
      Coord.InRange (16 * cx) ∧ Coord.InRange (16 * cz) := by
  rw [← Chunk.folded_eq_self_iff, ← Chunk.folded_eq_self_iff]
  constructor
  · intro h
    have howner := h _ (Area.smallChunk_made (Chunk.folded cx) (Chunk.folded cz)) "world"
    rw [Area.forChunk?_smallChunk] at howner
    obtain ⟨-, -, -, hclaims, -⟩ := howner
    obtain ⟨hx, hz⟩ := Area.claims_smallChunk_iff.mp hclaims
    exact ⟨hx.symm, hz.symm⟩
  · rintro ⟨hx, hz⟩ atlas hmade world
    have howner := Atlas.owner_folded hmade world cx cz
    rw [hx, hz] at howner
    exact howner

/-- A chunk far away from a region has its area as owner. -/
theorem far_chunk_has_owner : Coord.InRange 268435456 ∧ Coord.InRange 0 ∧
    Atlas.Made #[Area.smallChunk 0 0] ∧
    Atlas.forChunk? #[Area.smallChunk 0 0] "world" 268435456 0 = some (.smallChunk 0 0) ∧
    ¬ (Region.ofCorners ⟨(0, 0), (15, 15)⟩).Meets 268435456 0 ∧
    ¬ Atlas.Owner #[Area.smallChunk 0 0] "world" 268435456 0
      (Atlas.forChunk? #[Area.smallChunk 0 0] "world" 268435456 0) := by
  have hfind : Atlas.forChunk? #[Area.smallChunk 0 0] "world" 268435456 0 =
      some (.smallChunk 0 0) := Area.forChunk?_smallChunk 268435456 0
  have hnot : ¬ (Area.smallChunk 0 0).Claims "world" 268435456 0 := by
    rw [Area.claims_smallChunk_iff]
    decide
  refine ⟨by decide, by decide, Area.smallChunk_made 0 0, hfind, ?_, ?_⟩
  · exact fun hmeets => hnot ⟨rfl, fun r hr => Option.some.inj hr ▸ hmeets⟩
  · rw [hfind]
    rintro ⟨-, -, -, hclaims, -⟩
    exact hnot hclaims

end PlotGrid
