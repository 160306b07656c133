import PlotGrid.Chunk.Buffer
import PlotGrid.Proofs.Chunk.Cells

/-!
# Single writes

What one write does to the values of a buffer. A write that is not accepted may leave layers and
rows behind but changes no value, and voxels and biomes do not touch each other.

- `Buffer.Accepts`: the cells that take a voxel.
- `Buffer.write_fst`, `Buffer.voxel?_write`: a voxel.
- `Buffer.biome?_writeBiome`: the biome of a cell.
- `Buffer.biome?_writeBiomeColumn`: the biome of a column.
-/

namespace PlotGrid.Buffer

variable {b : Buffer} {x z x' z' : Nat} {y y' : Int}

/-- The index of a height in the box of cells. -/
def level (b : Buffer) (y : Int) : Nat :=
  (y - b.bottom.y).toNat

/-- Two heights of a buffer with one index are equal. -/
theorem level_inj (hy : b.HasHeight y) (hy' : b.HasHeight y') (h : b.level y = b.level y') :
    y = y' := by
  obtain ⟨hlo, -⟩ := hy
  obtain ⟨hlo', -⟩ := hy'
  simp only [level] at h
  omega

/-- A cell that takes a voxel. -/
def Accepts (b : Buffer) (x : Nat) (y : Int) (z : Nat) : Prop :=
  b.HasHeight y ∧ b.voxels.Inside x (b.level y) z

instance (b : Buffer) (x : Nat) (y : Int) (z : Nat) : Decidable (b.Accepts x y z) :=
  inferInstanceAs (Decidable (_ ∧ _))

/-! ## Voxels -/

theorem write_of_hasHeight (hy : b.HasHeight y) (v : Voxel) :
    b.write x y z v = (if b.voxels.Inside x (b.level y) z then .ok () else .error .outOfRange,
      { b with voxels := b.voxels.set x (b.level y) z v }) := by
  rw [write, if_pos hy]
  rfl

theorem write_of_not_hasHeight (hy : ¬ b.HasHeight y) (v : Voxel) :
    b.write x y z v = (.error (b.heightFault y), b) := by
  rw [write, if_neg hy]

/-- A write succeeds iff its cell is accepted. -/
theorem write_fst (v : Voxel) : (b.write x y z v).1 = .ok () ↔ b.Accepts x y z := by
  by_cases hy : b.HasHeight y
  · rw [write_of_hasHeight hy]
    dsimp only
    by_cases hin : b.voxels.Inside x (b.level y) z
    · rw [if_pos hin]
      exact ⟨fun _ => ⟨hy, hin⟩, fun _ => rfl⟩
    · rw [if_neg hin]
      constructor
      · intro h
        cases h
      · exact fun h => absurd h.2 hin
  · rw [write_of_not_hasHeight hy]
    constructor
    · intro h
      cases h
    · exact fun h => absurd h.1 hy

/-- **A write gives an accepted cell the voxel and keeps all other cells.** -/
theorem voxel?_write (v : Voxel) :
    (b.write x y z v).2.voxel? x' y' z' =
      if b.Accepts x y z ∧ x = x' ∧ y = y' ∧ z = z' then some v else b.voxel? x' y' z' := by
  by_cases hy : b.HasHeight y
  · rw [write_of_hasHeight hy]
    show (if b.HasHeight y' then (b.voxels.set x (b.level y) z v).get? x' (b.level y') z'
      else none) = _
    by_cases hy' : b.HasHeight y'
    · rw [if_pos hy', Cells.get?_set, voxel?, if_pos hy']
      -- cells are compared by index, which tells heights of the buffer apart
      refine ite_congr (propext ?_) (fun _ => rfl) fun _ => rfl
      constructor
      · rintro ⟨hin, hx, hlevel, hz⟩
        exact ⟨⟨hy, hin⟩, hx, level_inj hy hy' hlevel, hz⟩
      · rintro ⟨⟨-, hin⟩, hx, rfl, hz⟩
        exact ⟨hin, hx, rfl, hz⟩
    · have hne : y ≠ y' := fun heq => hy' (heq ▸ hy)
      rw [if_neg hy', if_neg fun h => hne h.2.2.1, voxel?, if_neg hy']
  · rw [write_of_not_hasHeight hy, if_neg fun h => hy h.1.1]

/-- A write of a voxel keeps all biomes. -/
theorem biome?_write (v : Voxel) : (b.write x y z v).2.biome? x' y' z' = b.biome? x' y' z' := by
  by_cases hy : b.HasHeight y
  · rw [write_of_hasHeight hy]
    rfl
  · rw [write_of_not_hasHeight hy]

/-! ## Biomes of cells -/

/-- Without biomes nothing is written. -/
theorem writeBiome_of_none (h : b.biomes = none) (tag : BiomeTag) :
    b.writeBiome x y z tag = (.ok false, b) := by
  obtain ⟨bottom, top, voxels, biomes⟩ := b
  subst h
  rfl

theorem writeBiome_of_some {cells : Cells BiomeTag} (h : b.biomes = some cells) (tag : BiomeTag) :
    b.writeBiome x y z tag =
      if b.HasHeight y then
        (if cells.Inside x (b.level y) z then .ok true else .error .outOfRange,
          { b with biomes := some (cells.set x (b.level y) z tag) })
      else (.error (b.heightFault y), b) := by
  obtain ⟨bottom, top, voxels, biomes⟩ := b
  subst h
  rfl

/-- **A write of a cell's biome gives the cell the biome and keeps all other cells.** -/
theorem biome?_writeBiome {cells : Cells BiomeTag} (h : b.biomes = some cells) (tag : BiomeTag) :
    (b.writeBiome x y z tag).2.biome? x' y' z' =
      if (b.HasHeight y ∧ cells.Inside x (b.level y) z) ∧ x = x' ∧ y = y' ∧ z = z' then some tag
      else b.biome? x' y' z' := by
  rw [writeBiome_of_some h]
  by_cases hy : b.HasHeight y
  · rw [if_pos hy]
    show (if b.HasHeight y' then (cells.set x (b.level y) z tag).get? x' (b.level y') z'
      else none) = _
    rw [biome?, h]
    by_cases hy' : b.HasHeight y'
    · rw [if_pos hy', if_pos hy', Cells.get?_set]
      refine ite_congr (propext ?_) (fun _ => rfl) fun _ => rfl
      constructor
      · rintro ⟨hin, hx, hlevel, hz⟩
        exact ⟨⟨hy, hin⟩, hx, level_inj hy hy' hlevel, hz⟩
      · rintro ⟨⟨-, hin⟩, hx, rfl, hz⟩
        exact ⟨hin, hx, rfl, hz⟩
    · have hne : y ≠ y' := fun heq => hy' (heq ▸ hy)
      rw [if_neg hy', if_neg hy', if_neg fun h => hne h.2.2.1]
  · rw [if_neg hy, if_neg fun h => hy h.1.1]

/-- A write of a cell's biome keeps all voxels. -/
theorem voxel?_writeBiome (tag : BiomeTag) :
    (b.writeBiome x y z tag).2.voxel? x' y' z' = b.voxel? x' y' z' := by
  cases hbiomes : b.biomes with
  | none => rw [writeBiome_of_none hbiomes]
  | some cells =>
    rw [writeBiome_of_some hbiomes]
    split <;> rfl

/-! ## Biomes of columns -/

/-- Without biomes nothing is written. -/
theorem writeBiomeColumn_of_none (h : b.biomes = none) (tag : BiomeTag) :
    b.writeBiomeColumn x z tag = (.ok false, b) := by
  obtain ⟨bottom, top, voxels, biomes⟩ := b
  subst h
  rfl

theorem writeBiomeColumn_of_some {cells : Cells BiomeTag} (h : b.biomes = some cells)
    (hcol : x < cells.width ∧ z < cells.length) (tag : BiomeTag) :
    b.writeBiomeColumn x z tag =
      (.ok true, { b with biomes := some (cells.setColumn x z tag) }) := by
  obtain ⟨bottom, top, voxels, biomes⟩ := b
  subst h
  rw [writeBiomeColumn, if_pos hcol]

theorem writeBiomeColumn_of_outside {cells : Cells BiomeTag} (h : b.biomes = some cells)
    (hcol : ¬ (x < cells.width ∧ z < cells.length)) (tag : BiomeTag) :
    b.writeBiomeColumn x z tag = (.error .outOfRange, b) := by
  obtain ⟨bottom, top, voxels, biomes⟩ := b
  subst h
  rw [writeBiomeColumn, if_neg hcol]

/-- **A write of a column's biome gives all its cells the biome and keeps all other cells.** -/
theorem biome?_writeBiomeColumn {cells : Cells BiomeTag} (h : b.biomes = some cells)
    (hcol : x < cells.width ∧ z < cells.length) (tag : BiomeTag) :
    (b.writeBiomeColumn x z tag).2.biome? x' y' z' =
      if (b.HasHeight y' ∧ b.level y' < cells.height) ∧ x = x' ∧ z = z' then some tag
      else b.biome? x' y' z' := by
  rw [writeBiomeColumn_of_some h hcol]
  show (if b.HasHeight y' then (cells.setColumn x z tag).get? x' (b.level y') z' else none) = _
  rw [biome?, h]
  by_cases hy' : b.HasHeight y'
  · rw [if_pos hy', if_pos hy', Cells.get?_setColumn]
    refine ite_congr (propext ?_) (fun _ => rfl) fun _ => rfl
    constructor
    · rintro ⟨⟨-, hlevel, -⟩, hx, hz⟩
      exact ⟨⟨hy', hlevel⟩, hx, hz⟩
    · rintro ⟨⟨-, hlevel⟩, hx, hz⟩
      exact ⟨⟨hcol.1, hlevel, hcol.2⟩, hx, hz⟩
  · rw [if_neg hy', if_neg hy', if_neg fun h => hy' h.1.1]

/-- A write of a column's biome keeps all voxels. -/
theorem voxel?_writeBiomeColumn (tag : BiomeTag) :
    (b.writeBiomeColumn x z tag).2.voxel? x' y' z' = b.voxel? x' y' z' := by
  cases hbiomes : b.biomes with
  | none => rw [writeBiomeColumn_of_none hbiomes]
  | some cells =>
    obtain ⟨bottom, top, voxels, biomes⟩ := b
    subst hbiomes
    rw [writeBiomeColumn]
    split <;> rfl

end PlotGrid.Buffer
