import Mathlib.Data.List.Nodup
import PlotGrid.Overlay.Build

/-!
# The cells of a clip

The build reads a clip column by column and each column from below, while the clip keeps its
voxels by height. For a clip whose edges are coordinates both go through the same cells.

- `Clip.Sized`: the edges of a clip are coordinates.
- `Clip.mem_columnList_iff`, `Clip.mem_solids_iff`: which columns and which cells are read.
- `Clip.indices_perm`: the cells of a box are numbered without gaps.
- `Clip.solids_perm`: the voxels that are read are those of the clip that are not air.
-/

namespace PlotGrid.Clip

variable {c : Clip}

/-- A clip whose edges are coordinates. -/
structure Sized (c : Clip) : Prop where
  width : Coord.InRange c.width
  height : Coord.InRange c.height
  length : Coord.InRange c.length

namespace Sized

theorem coordWidth_eq (h : c.Sized) : c.coordWidth = c.width :=
  Coord.wrap_of_inRange h.width

theorem coordHeight_eq (h : c.Sized) : c.coordHeight = c.height :=
  Coord.wrap_of_inRange h.height

theorem coordLength_eq (h : c.Sized) : c.coordLength = c.length :=
  Coord.wrap_of_inRange h.length

end Sized

/-! ## Columns and their cells -/

theorem mem_columnList_iff {x z : Nat} :
    (x, z) ∈ c.columnList ↔ x < c.coordWidth.toNat ∧ z < c.coordLength.toNat := by
  unfold columnList
  split
  · rename_i hlength
    constructor
    · intro h
      cases h
    · rintro ⟨-, hz⟩
      omega
  · simp

/-- The columns of a clip whose edges are coordinates are those within its edges. -/
theorem Sized.mem_columnList_iff (h : c.Sized) {x z : Nat} :
    (x, z) ∈ c.columnList ↔ x < c.width ∧ z < c.length := by
  rw [Clip.mem_columnList_iff, h.coordWidth_eq, h.coordLength_eq, Int.toNat_natCast,
    Int.toNat_natCast]

theorem nodup_columnList : c.columnList.Nodup := by
  unfold columnList
  split
  · exact List.nodup_nil
  · refine List.pairwise_flatMap.mpr ⟨fun x _ => ?_, ?_⟩
    · exact List.nodup_range.map fun z z' h => (Prod.mk.inj h).2
    · refine List.nodup_range.imp fun hx a ha b hb hab => hx ?_
      obtain ⟨z, -, rfl⟩ := List.mem_map.mp ha
      obtain ⟨z', -, rfl⟩ := List.mem_map.mp hb
      exact (Prod.mk.inj hab).1

theorem mem_solids_iff {x z y : Nat} {v : Voxel} :
    (y, v) ∈ c.solids x z ↔ y < c.coordHeight.toNat ∧ v = c.cell x y z ∧ v.isAir = false := by
  simp only [solids, List.mem_filterMap, List.mem_range]
  constructor
  · rintro ⟨y', hy, h⟩
    split at h
    · cases h
    · rename_i hair
      obtain ⟨rfl, rfl⟩ := Prod.mk.inj (Option.some.inj h)
      exact ⟨hy, rfl, Bool.eq_false_iff.mpr hair⟩
  · rintro ⟨hy, rfl, hair⟩
    exact ⟨y, hy, if_neg (Bool.eq_false_iff.mp hair)⟩

theorem nodup_solids (x z : Nat) : (c.solids x z).Nodup := by
  refine List.nodup_range.filterMap ?_
  intro y y' a hy hy'
  simp only [Option.mem_def] at hy hy'
  split at hy
  · cases hy
  · split at hy'
    · cases hy'
    · rw [← Option.some.inj hy'] at hy
      exact (Prod.mk.inj (Option.some.inj hy)).1

/-! ## The numbers of cells -/

/-- The numbers of all cells in the order in which the build reads them. -/
def indices (c : Clip) : List Nat :=
  c.columnList.flatMap fun (x, z) => (List.range c.coordHeight.toNat).map fun y => c.index x y z

/-- A number within a row and the number of the row. -/
theorem row_eq {w x r x' r' : Nat} (hx : x < w) (hx' : x' < w) (h : r * w + x = r' * w + x') :
    r = r' ∧ x = x' := by
  -- the number of the row is the quotient, the number within it the remainder
  have hdiv : (r * w + x) / w = (r' * w + x') / w := by rw [h]
  have hmod : (r * w + x) % w = (r' * w + x') % w := by rw [h]
  rw [Nat.mul_comm r, Nat.mul_comm r', Nat.mul_add_div (by omega), Nat.mul_add_div (by omega),
    Nat.div_eq_of_lt hx, Nat.div_eq_of_lt hx'] at hdiv
  rw [Nat.mul_comm r, Nat.mul_comm r', Nat.mul_add_mod, Nat.mul_add_mod, Nat.mod_eq_of_lt hx,
    Nat.mod_eq_of_lt hx'] at hmod
  exact ⟨hdiv, hmod⟩

/-- Two cells of a box with one number are equal. -/
theorem index_inj {x y z x' y' z' : Nat} (hx : x < c.width) (hx' : x' < c.width)
    (hz : z < c.length) (hz' : z' < c.length) (h : c.index x y z = c.index x' y' z') :
    x = x' ∧ y = y' ∧ z = z' := by
  obtain ⟨hrow, rfl⟩ := row_eq hx hx' h
  obtain ⟨rfl, rfl⟩ := row_eq hz hz' hrow
  exact ⟨rfl, rfl, rfl⟩

/-- The number of a cell is a number of a voxel. -/
theorem index_lt {x y z : Nat} (hx : x < c.width) (hy : y < c.height) (hz : z < c.length) :
    c.index x y z < c.width * c.height * c.length := by
  have hrow : y * c.length + z + 1 ≤ c.height * c.length := by
    calc y * c.length + z + 1 ≤ y * c.length + c.length := by omega
      _ = (y + 1) * c.length := by rw [Nat.add_mul, Nat.one_mul]
      _ ≤ c.height * c.length := Nat.mul_le_mul_right _ hy
  calc c.index x y z < (y * c.length + z) * c.width + c.width := Nat.add_lt_add_left hx _
    _ = (y * c.length + z + 1) * c.width := by rw [Nat.add_mul _ 1, Nat.one_mul]
    _ ≤ c.height * c.length * c.width := Nat.mul_le_mul_right _ hrow
    _ = c.width * c.height * c.length := by rw [Nat.mul_comm, Nat.mul_assoc]

/-- The number of every voxel is that of a cell. -/
theorem exists_index_eq {i : Nat} (h : i < c.width * c.height * c.length) :
    ∃ x y z, x < c.width ∧ y < c.height ∧ z < c.length ∧ c.index x y z = i := by
  have hw : 0 < c.width := by
    refine Nat.pos_of_ne_zero ?_
    intro hzero
    rw [hzero, Nat.zero_mul, Nat.zero_mul] at h
    exact Nat.not_lt_zero i h
  have hl : 0 < c.length := by
    refine Nat.pos_of_ne_zero ?_
    intro hzero
    rw [hzero, Nat.mul_zero] at h
    exact Nat.not_lt_zero i h
  refine ⟨i % c.width, i / c.width / c.length, i / c.width % c.length, Nat.mod_lt _ hw, ?_,
    Nat.mod_lt _ hl, ?_⟩
  · rw [Nat.div_div_eq_div_mul]
    refine Nat.div_lt_of_lt_mul ?_
    rw [Nat.mul_right_comm]
    exact h
  · rw [index, Nat.mul_comm _ c.length, Nat.div_add_mod, Nat.mul_comm _ c.width, Nat.div_add_mod]

/-- **The cells of a box are numbered without gaps.** -/
theorem indices_perm (h : c.Sized) :
    c.indices.Perm (List.range (c.width * c.height * c.length)) := by
  -- neither list repeats a number, so they only need to have the same numbers
  rw [List.perm_ext_iff_of_nodup ?_ List.nodup_range]
  · intro i
    simp only [indices, List.mem_flatMap, List.mem_map, List.mem_range, h.coordHeight_eq,
      Int.toNat_natCast]
    constructor
    · rintro ⟨⟨x, z⟩, hcol, y, hy, rfl⟩
      obtain ⟨hx, hz⟩ := h.mem_columnList_iff.mp hcol
      exact index_lt hx hy hz
    · intro hi
      obtain ⟨x, y, z, hx, hy, hz, rfl⟩ := exists_index_eq hi
      exact ⟨(x, z), h.mem_columnList_iff.mpr ⟨hx, hz⟩, y, hy, rfl⟩
  · refine List.pairwise_flatMap.mpr ⟨fun column hcol => ?_, ?_⟩
    · obtain ⟨x, z⟩ := column
      obtain ⟨hx, hz⟩ := h.mem_columnList_iff.mp hcol
      exact List.nodup_range.map fun y y' hy => (index_inj hx hx hz hz hy).2.1
    · refine nodup_columnList.imp_of_mem fun {a b} ha hb hne i hi j hj hij => hne ?_
      obtain ⟨x, z⟩ := a
      obtain ⟨x', z'⟩ := b
      obtain ⟨y, -, rfl⟩ := List.mem_map.mp hi
      obtain ⟨y', -, rfl⟩ := List.mem_map.mp hj
      obtain ⟨hx, hz⟩ := h.mem_columnList_iff.mp ha
      obtain ⟨hx', hz'⟩ := h.mem_columnList_iff.mp hb
      obtain ⟨rfl, -, rfl⟩ := index_inj hx hx' hz hz' hij
      rfl

/-- The voxels of a column that are not air. -/
theorem map_snd_solids (x z : Nat) :
    (c.solids x z).map (·.2) =
      ((List.range c.coordHeight.toNat).map fun y => c.cell x y z).filter fun v => !v.isAir := by
  unfold solids
  induction List.range c.coordHeight.toNat with
  | nil => rfl
  | cons y rest ih =>
    rw [List.filterMap_cons, List.map_cons, List.filter_cons, ← ih]
    cases hair : (c.cell x y z).isAir <;> simp [hair]

/-- **The voxels that the build reads are those of the clip that are not air.** -/
theorem solids_perm (h : c.Sized) :
    (c.columnList.flatMap fun (x, z) => (c.solids x z).map (·.2)).Perm
      (c.voxels.toList.filter fun v => !v.isAir) := by
  -- by number the cells are the stored voxels
  have hcells : (c.indices.map fun i => c.voxels.getD i .air).Perm c.voxels.toList := by
    have hall : (List.range (c.width * c.height * c.length)).map (fun i => c.voxels.getD i .air) =
        c.voxels.toList := by
      refine List.ext_getElem (by simp) ?_
      intro i hi hi'
      have hlt : i < c.width * c.height * c.length := by simpa using hi'
      simp [Vector.getD, Vector.getElem?_eq_getElem hlt]
    exact hall ▸ (indices_perm h).map _
  -- column by column the build goes through the numbers in their own order
  have hread : (c.columnList.flatMap fun (x, z) => (c.solids x z).map (·.2)) =
      (c.indices.map fun i => c.voxels.getD i .air).filter fun v => !v.isAir := by
    rw [indices, List.map_flatMap, List.filter_flatMap]
    refine List.flatMap_congr ?_
    intro column _
    obtain ⟨x, z⟩ := column
    dsimp only
    rw [map_snd_solids, List.map_map]
    rfl
  rw [hread]
  exact hcells.filter _

end PlotGrid.Clip
