import PlotGrid.Proofs.Overlay.Fitting

/-!
# Biomes of an overlay

Each column of a fragment that fits is the only one that puts a biome to its spot. So the overlay
has the biomes of its fragments, and none where a fragment has none.

- `Fragments.biome_mem_course_iff`: the biomes that are put, column by column.
- `Fragments.biomes_course`: the biome at the spot of a column.
- `Overlay.biome?_of_build`: the same for an overlay that was built.
-/

namespace PlotGrid

variable {f : Fragments} {plan : Plan} {c : Clip} {s : Slot} {x z : Nat}

/-- Within the course of a fragment, biomes are put column by column and slot by slot. -/
theorem Clip.biome_mem_course_iff {slots : List Slot} {X Z : Int} {tag : Option BiomeTag} :
    Placement.biome X Z tag ∈ c.course plan slots ↔
      ∃ x z, (x, z) ∈ c.columnList ∧ ∃ s ∈ slots,
        s.biomePlacement plan c x z = .biome X Z tag := by
  simp only [course, List.mem_flatMap, Prod.exists, List.mem_append, List.mem_map]
  refine exists_congr fun x => exists_congr fun z => and_congr_right fun _ => ?_
  constructor
  · rintro (⟨y, v, -, s, -, hvoxel⟩ | hbiome)
    · cases hvoxel
    · exact hbiome
  · exact .inr

namespace Fragments

/-- **A column of a fragment puts its biome to its spot**, and nothing else puts a biome. -/
theorem biome_mem_course_iff {X Z : Int} {tag : Option BiomeTag} :
    Placement.biome X Z tag ∈ f.course plan ↔
      ∃ s c x z, Slot.clip? f s = some c ∧ (s ≠ .plot → f.hasRoad plan.geometry = true) ∧
        (x, z) ∈ c.columnList ∧ s.biomePlacement plan c x z = .biome X Z tag := by
  simp only [course, List.mem_flatMap, Prod.exists, Clip.biome_mem_course_iff]
  constructor
  · rintro ⟨c, slots, hfill, x, z, hcol, s, hs, heq⟩
    obtain ⟨hclip, hroad⟩ := exists_filling_iff.mp ⟨slots, hfill, hs⟩
    exact ⟨s, c, x, z, hclip, hroad, hcol, heq⟩
  · rintro ⟨s, c, x, z, hclip, hroad, hcol, heq⟩
    obtain ⟨slots, hfill, hs⟩ := exists_filling_iff.mpr ⟨hclip, hroad⟩
    exact ⟨c, slots, hfill, x, z, hcol, s, hs, heq⟩

/-- **A column of a fragment that fits gives its biome to its spot.** -/
theorem biomes_course (reg : Registry) {blank : Overlay} (h : plan.geometry.Paved)
    (hf : f.Fits plan.geometry) (hblank : Blank plan blank) (hc : Slot.clip? f s = some c)
    (hx : x < c.width) (hz : z < c.length) :
    (f.finished reg plan blank).overlay.biomes[Cell.key blank.size
      (s.spot plan.geometry c x z).1 (s.spot plan.geometry c x z).2]? = c.biomeAt x z := by
  have hlast : (f.course plan).reverse.findSome? (Placement.biomeSet? blank.size
      (Cell.key blank.size (s.spot plan.geometry c x z).1 (s.spot plan.geometry c x z).2)) =
        some (c.biomeAt x z) := by
    refine findSome?_eq_some_of_unique (a := s.biomePlacement plan c x z)
      (List.mem_reverse.mpr ?_) (if_pos rfl) ?_
    · refine biome_mem_course_iff.mpr ⟨s, c, x, z, hc, hasRoad_of_clip? h hc, ?_, rfl⟩
      exact (Slot.sized_of_fits h hf hc).mem_columnList_iff.mpr ⟨hx, hz⟩
    · -- what else goes to the spot comes from the same column
      intro p hp tag htag
      cases p with
      | voxel => cases htag
      | biome X Z tag' =>
        obtain ⟨s', c', x', z', hc', -, hcol', heq⟩ :=
          biome_mem_course_iff.mp (List.mem_reverse.mp hp)
        obtain ⟨rfl, rfl, rfl⟩ := Placement.biome.inj heq
        obtain ⟨hx', hz'⟩ := (Slot.sized_of_fits h hf hc').mem_columnList_iff.mp hcol'
        simp only [Placement.biomeSet?] at htag
        split at htag
        · rename_i hkey
          rw [hblank.size] at hkey
          obtain ⟨-, rfl, rfl, rfl⟩ := Slot.eq_of_key_eq h hf hc' hc hx' hz' hx hz hkey
          exact (Option.some.inj htag).symm
        · cases htag
  rw [finished, Draft.biomes_foldl, hlast, Option.getD_some]

end Fragments

/-- **An overlay has the biomes of its fragments**, and none where a fragment has none. -/
theorem Overlay.biome?_of_build {reg : Registry} {g : Geometry} {settings : SchematicSettings}
    {o : Overlay} {notices : Array Notice} (h : g.Paved) (hf : f.Fits g)
    (hexec : (build reg g settings f).exec = (.ok o, notices)) (hc : Slot.clip? f s = some c)
    (hx : x < c.width) (hz : z < c.length) :
    o.biome? (s.spot g c x z).1 (s.spot g c x z).2 = c.biomeAt x z := by
  obtain ⟨blank, hstart, -, d, hd, -, rfl, -⟩ := build_eq_ok hexec
  have hblank := Fragments.Blank.of_start h hstart
  have hsize : d.overlay.size = blank.size := by
    rw [hd, Draft.size_foldl]
  have hbiome := Fragments.biomes_course reg h hf hblank hc hx hz
  rw [Fragments.finished, ← hd] at hbiome
  rw [Overlay.biome?, hsize]
  exact hbiome

end PlotGrid
