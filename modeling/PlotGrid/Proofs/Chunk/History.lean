import Mathlib.Logic.Basic
import PlotGrid.Proofs.Chunk.Filling
import PlotGrid.Proofs.Chunk.Listing

/-!
# Histories of writes

Whatever is written to a buffer, and whichever of the writes fail, each cell shows the value of
the last write to it that succeeded. So a buffer is a finite map, and listing its voxels lists the
map in the order of the cells.

- `Buffer.Call`, `Buffer.after`, `Buffer.succeeded`: a write, the buffer after a list of writes, and
  those of them that succeed.
- `Call.Fits`, `Call.voxelAt?`, `Call.biomeAt?`: which writes succeed, and what they give to a
  cell, told from the box alone.
- `Buffer.succeeds_iff`, `Buffer.voxel?_run`, `Buffer.biome?_run`: what one write does.
- `Buffer.voxel?_after`, `Buffer.biome?_after`: what a list of writes does.
- `Buffer.mem_voxelList_iff`, `Buffer.pairwise_voxelList`: the list of all voxels.
- `buffer_is_finite_map`: all of it for a buffer that starts out new.
-/

namespace PlotGrid

/-- The frame of a new buffer between two corners. -/
def Frame.between (bottom top : BlockPos) (track : Bool) : Frame :=
  ⟨bottom, top, (top.x - bottom.x + 1).toNat, (top.z - bottom.z + 1).toNat, track⟩

instance (F : Frame) (x z : Nat) : Decidable (F.HasColumn x z) :=
  inferInstanceAs (Decidable (_ ∧ _))

namespace Buffer

/-! ## Writes -/

/-- A write to a buffer. -/
inductive Call
  | voxel (x : Nat) (y : Int) (z : Nat) (v : Voxel)
  | pattern (x : Nat) (y : Int) (z : Nat) (p : Pattern)
  | biome (x : Nat) (y : Int) (z : Nat) (tag : BiomeTag)
  | biomeColumn (x z : Nat) (tag : BiomeTag)

namespace Call

/-- Carry out a write. The outcome tells whether it was written, or the fault. -/
def run (b : Buffer) : Call → Checked Bool × Buffer
  | .voxel x y z v => ((b.write x y z v).1.map fun _ => true, (b.write x y z v).2)
  | .pattern x y z p =>
    ((b.writePattern x y z p).1.map fun _ => true, (b.writePattern x y z p).2)
  | .biome x y z tag => b.writeBiome x y z tag
  | .biomeColumn x z tag => b.writeBiomeColumn x z tag

/-- A write without a fault to something that the buffer keeps. -/
def Succeeds (b : Buffer) (c : Call) : Prop :=
  (c.run b).1 = .ok true

instance (b : Buffer) (c : Call) : Decidable (c.Succeeds b) :=
  match h : (c.run b).1 with
  | .ok true => isTrue h
  | .ok false => isFalse fun hok => nomatch h.symm.trans hok
  | .error _ => isFalse fun hok => nomatch h.symm.trans hok

/-- A write of voxels. -/
def WritesVoxel : Call → Prop
  | .voxel .. | .pattern .. => True
  | .biome .. | .biomeColumn .. => False

/-- A write within the box, to something that is kept. -/
def Fits (F : Frame) : Call → Prop
  | .voxel x y z _ | .pattern x y z _ => F.HasColumn x z ∧ F.HasHeight y
  | .biome x y z _ => F.tracks = true ∧ F.HasColumn x z ∧ F.HasHeight y
  | .biomeColumn x z _ => F.tracks = true ∧ F.HasColumn x z

instance (F : Frame) : (c : Call) → Decidable (c.Fits F)
  | .voxel .. | .pattern .. => inferInstanceAs (Decidable (_ ∧ _))
  | .biome .. => inferInstanceAs (Decidable (_ ∧ _ ∧ _))
  | .biomeColumn .. => inferInstanceAs (Decidable (_ ∧ _))

/-- The voxel that a write gives to a cell; a pattern gives the one for the absolute position. -/
def voxelAt? (F : Frame) (x : Nat) (y : Int) (z : Nat) : Call → Option Voxel
  | .voxel x' y' z' v => if x' = x ∧ y' = y ∧ z' = z then some v else none
  | .pattern x' y' z' p => if x' = x ∧ y' = y ∧ z' = z then some (F.see p x y z) else none
  | .biome .. | .biomeColumn .. => none

/-- The biome that a write gives to a cell; that of a column goes to all heights of the box. -/
def biomeAt? (F : Frame) (x : Nat) (y : Int) (z : Nat) : Call → Option BiomeTag
  | .biome x' y' z' tag => if x' = x ∧ y' = y ∧ z' = z then some tag else none
  | .biomeColumn x' z' tag => if x' = x ∧ z' = z ∧ F.HasHeight y then some tag else none
  | .voxel .. | .pattern .. => none

end Call

/-- The buffer after a list of writes. -/
def after (b : Buffer) (calls : List Call) : Buffer :=
  calls.foldl (fun b c => (c.run b).2) b

/-- The writes of a list that succeed when they are carried out one after the other. -/
def succeeded (b : Buffer) : List Call → List Call
  | [] => []
  | c :: rest => (if c.Succeeds b then [c] else []) ++ succeeded (c.run b).2 rest

/-! ## One write -/

variable {F : Frame} {b : Buffer} {x z x' z' : Nat} {y y' : Int}

namespace HasFrame

theorem accepts_iff (hb : b.HasFrame F) :
    b.Accepts x y z ↔ F.HasColumn x z ∧ F.HasHeight y := by
  constructor
  · rintro ⟨hy, hx, -, hz⟩
    have hwidth : b.voxels.width = F.width := congrArg (·.1) hb.voxels
    have hlength : b.voxels.length = F.length := congrArg (·.2.1) hb.voxels
    exact ⟨⟨hwidth ▸ hx, hlength ▸ hz⟩, hb.hasHeight_iff.mp hy⟩
  · rintro ⟨hcol, hy⟩
    exact hb.accepts hcol hy

/-- A frame without biomes has buffers without biomes. -/
theorem untracked (hb : b.HasFrame F) (h : b.biomes = none) : F.tracks = false := by
  rw [← hb.isSome_biomes, h]
  rfl

/-- The biomes of a buffer fill its frame. -/
theorem tracked (hb : b.HasFrame F) {cells : Cells BiomeTag} (h : b.biomes = some cells) :
    F.tracks = true ∧ cells.dims = F.dims := by
  have htracks : F.tracks = true := by
    rw [← hb.isSome_biomes, h]
    rfl
  have hdims := hb.biomes
  rw [h, htracks, if_pos rfl] at hdims
  exact ⟨htracks, Option.some.inj hdims⟩

theorem hasColumn_iff (hb : b.HasFrame F) {cells : Cells BiomeTag} (h : b.biomes = some cells) :
    x < cells.width ∧ z < cells.length ↔ F.HasColumn x z := by
  have hdims := (hb.tracked h).2
  have hwidth : cells.width = F.width := congrArg (·.1) hdims
  have hlength : cells.length = F.length := congrArg (·.2.1) hdims
  rw [hwidth, hlength]
  exact Iff.rfl

theorem inside_iff (hb : b.HasFrame F) {cells : Cells BiomeTag} (h : b.biomes = some cells) :
    b.HasHeight y ∧ cells.Inside x (b.level y) z ↔ F.HasColumn x z ∧ F.HasHeight y := by
  rw [← hb.hasColumn_iff h, ← hb.hasHeight_iff]
  constructor
  · rintro ⟨hy, hx, -, hz⟩
    exact ⟨⟨hx, hz⟩, hy⟩
  · rintro ⟨⟨hx, hz⟩, hy⟩
    exact ⟨hy, hx, hb.level_lt (hb.tracked h).2 hy, hz⟩

theorem write (hb : b.HasFrame F) (v : Voxel) : (b.write x y z v).2.HasFrame F := by
  by_cases hy : b.HasHeight y
  · rw [write_of_hasHeight hy]
    exact ⟨hb.bottom, hb.top, (Cells.dims_set ..).trans hb.voxels, hb.biomes⟩
  · rw [write_of_not_hasHeight hy]
    exact hb

/-- Other biomes for the same box. -/
theorem withBiomes (hb : b.HasFrame F) {cells cells' : Cells BiomeTag} (h : b.biomes = some cells)
    (hdims : cells'.dims = cells.dims) : HasFrame { b with biomes := some cells' } F := by
  refine ⟨hb.bottom, hb.top, hb.voxels, ?_⟩
  rw [← hb.biomes, h, Option.map_some, Option.map_some, hdims]

end HasFrame

/-- A pattern overflows before anything is written, or writes some voxel. -/
theorem writePattern_cases (b : Buffer) (x : Nat) (y : Int) (z : Nat) (p : Pattern) :
    b.writePattern x y z p = (.error .overflow, b) ∨
      ∃ v, b.writePattern x y z p = b.write x y z v := by
  unfold writePattern
  split
  · exact .inr ⟨_, rfl⟩
  · exact .inl rfl

/-- A write keeps the frame, whatever its outcome. -/
theorem hasFrame_run (hb : b.HasFrame F) (c : Call) : (c.run b).2.HasFrame F := by
  cases c with
  | voxel x y z v => exact hb.write v
  | pattern x y z p =>
    show (b.writePattern x y z p).2.HasFrame F
    rcases b.writePattern_cases x y z p with h | ⟨v, h⟩
    · rw [h]
      exact hb
    · rw [h]
      exact hb.write v
  | biome x y z tag =>
    show (b.writeBiome x y z tag).2.HasFrame F
    cases hbiomes : b.biomes with
    | none =>
      rw [writeBiome_of_none hbiomes]
      exact hb
    | some cells =>
      rw [writeBiome_of_some hbiomes]
      split
      · exact hb.withBiomes hbiomes (Cells.dims_set ..)
      · exact hb
  | biomeColumn x z tag =>
    show (b.writeBiomeColumn x z tag).2.HasFrame F
    cases hbiomes : b.biomes with
    | none =>
      rw [writeBiomeColumn_of_none hbiomes]
      exact hb
    | some cells =>
      by_cases hcol : x < cells.width ∧ z < cells.length
      · rw [writeBiomeColumn_of_some hbiomes hcol]
        exact hb.withBiomes hbiomes (Cells.dims_setColumn ..)
      · rw [writeBiomeColumn_of_outside hbiomes hcol]
        exact hb

/-- What a write of a voxel reports is told by its cell. -/
theorem write_map_eq_ok_iff (v : Voxel) :
    ((b.write x y z v).1.map fun _ => true) = .ok true ↔ b.Accepts x y z := by
  rw [Checked.map_eq_ok_iff, ← write_fst v]
  constructor
  · rintro ⟨_, h, -⟩
    exact h
  · intro h
    exact ⟨(), h, rfl⟩

/-- **Which writes succeed is told by the box alone.** -/
theorem succeeds_iff (hF : F.Narrow) (hb : b.HasFrame F) (c : Call) :
    c.Succeeds b ↔ c.Fits F := by
  cases c with
  | voxel x y z v => exact (write_map_eq_ok_iff v).trans hb.accepts_iff
  | pattern x y z p =>
    show ((b.writePattern x y z p).1.map fun _ => true) = .ok true ↔
      F.HasColumn x z ∧ F.HasHeight y
    by_cases hcol : F.HasColumn x z
    · rw [writePattern_eq hF hb hcol, write_map_eq_ok_iff, hb.accepts_iff]
    · -- outside of the columns a pattern fails one way or the other
      rw [← hb.accepts_iff]
      rcases b.writePattern_cases x y z p with h | ⟨v, h⟩
      · rw [h, hb.accepts_iff]
        constructor
        · intro hok
          cases hok
        · exact fun hfits => absurd hfits.1 hcol
      · rw [h]
        exact write_map_eq_ok_iff v
  | biome x y z tag =>
    show (b.writeBiome x y z tag).1 = .ok true ↔
      F.tracks = true ∧ F.HasColumn x z ∧ F.HasHeight y
    cases hbiomes : b.biomes with
    | none =>
      rw [writeBiome_of_none hbiomes, hb.untracked hbiomes]
      simp
    | some cells =>
      rw [writeBiome_of_some hbiomes, (hb.tracked hbiomes).1, ← hb.inside_iff hbiomes]
      by_cases hy : b.HasHeight y <;> by_cases hin : cells.Inside x (b.level y) z <;>
        simp [hy, hin]
  | biomeColumn x z tag =>
    show (b.writeBiomeColumn x z tag).1 = .ok true ↔ F.tracks = true ∧ F.HasColumn x z
    cases hbiomes : b.biomes with
    | none =>
      rw [writeBiomeColumn_of_none hbiomes, hb.untracked hbiomes]
      simp
    | some cells =>
      rw [(hb.tracked hbiomes).1, ← hb.hasColumn_iff hbiomes]
      by_cases hcol : x < cells.width ∧ z < cells.length
      · rw [writeBiomeColumn_of_some hbiomes hcol]
        simp [hcol]
      · rw [writeBiomeColumn_of_outside hbiomes hcol]
        simp [hcol]

/-- A written voxel lies over what the buffer shows. -/
theorem voxel?_write_eq_or (v : Voxel) :
    (b.write x' y' z' v).2.voxel? x y z =
      if b.Accepts x' y' z' then
        (if x' = x ∧ y' = y ∧ z' = z then some v else none).or (b.voxel? x y z)
      else b.voxel? x y z := by
  rw [voxel?_write]
  by_cases haccepts : b.Accepts x' y' z' <;> by_cases hcell : x' = x ∧ y' = y ∧ z' = z <;>
    simp [haccepts, hcell]

/-- **A write that succeeds lies over what the buffer shows; any other write keeps it.** -/
theorem voxel?_run (hF : F.Narrow) (hb : b.HasFrame F) (c : Call) :
    (c.run b).2.voxel? x y z =
      if c.Succeeds b then (c.voxelAt? F x y z).or (b.voxel? x y z) else b.voxel? x y z := by
  rw [if_congr (succeeds_iff hF hb c) rfl rfl]
  cases c with
  | voxel x' y' z' v =>
    show (b.write x' y' z' v).2.voxel? x y z = _
    rw [voxel?_write_eq_or]
    exact if_congr hb.accepts_iff rfl rfl
  | pattern x' y' z' p =>
    show (b.writePattern x' y' z' p).2.voxel? x y z = _
    by_cases hcol : F.HasColumn x' z'
    · rw [writePattern_eq hF hb hcol, voxel?_write_eq_or]
      refine if_congr hb.accepts_iff ?_ rfl
      congr 1
      -- the pattern is asked for the position of the cell itself
      show (if _ then some (F.see p x' y' z') else none) = if _ then some (F.see p x y z) else none
      split
      · rename_i hcell
        rw [hcell.1, hcell.2.1, hcell.2.2]
      · rfl
    · rw [if_neg fun hfits => hcol hfits.1]
      rcases b.writePattern_cases x' y' z' p with h | ⟨v, h⟩
      · rw [h]
      · rw [h, voxel?_write_eq_or, if_neg fun haccepts => hcol (hb.accepts_iff.mp haccepts).1]
  | biome x' y' z' tag =>
    show (b.writeBiome x' y' z' tag).2.voxel? x y z = _
    rw [voxel?_writeBiome]
    exact (ite_self _).symm
  | biomeColumn x' z' tag =>
    show (b.writeBiomeColumn x' z' tag).2.voxel? x y z = _
    rw [voxel?_writeBiomeColumn]
    exact (ite_self _).symm

theorem biome?_run (hF : F.Narrow) (hb : b.HasFrame F) (c : Call) :
    (c.run b).2.biome? x y z =
      if c.Succeeds b then (c.biomeAt? F x y z).or (b.biome? x y z) else b.biome? x y z := by
  rw [if_congr (succeeds_iff hF hb c) rfl rfl]
  cases c with
  | voxel x' y' z' v =>
    show (b.write x' y' z' v).2.biome? x y z = _
    rw [biome?_write]
    exact (ite_self _).symm
  | pattern x' y' z' p =>
    show (b.writePattern x' y' z' p).2.biome? x y z = if _ then b.biome? x y z else b.biome? x y z
    rw [ite_self]
    rcases b.writePattern_cases x' y' z' p with h | ⟨v, h⟩
    · rw [h]
    · rw [h, biome?_write]
  | biome x' y' z' tag =>
    show (b.writeBiome x' y' z' tag).2.biome? x y z = if _ then
      (if x' = x ∧ y' = y ∧ z' = z then some tag else none).or (b.biome? x y z) else _
    cases hbiomes : b.biomes with
    | none =>
      rw [writeBiome_of_none hbiomes, if_neg fun hfits => ?_]
      exact Bool.false_ne_true ((hb.untracked hbiomes).symm.trans hfits.1)
    | some cells =>
      rw [biome?_writeBiome hbiomes]
      have hfits : (Call.biome x' y' z' tag).Fits F ↔
          b.HasHeight y' ∧ cells.Inside x' (b.level y') z' :=
        (and_iff_right (hb.tracked hbiomes).1).trans (hb.inside_iff hbiomes).symm
      rw [if_congr hfits rfl rfl]
      by_cases hin : b.HasHeight y' ∧ cells.Inside x' (b.level y') z' <;>
        by_cases hcell : x' = x ∧ y' = y ∧ z' = z <;> simp [hin, hcell]
  | biomeColumn x' z' tag =>
    show (b.writeBiomeColumn x' z' tag).2.biome? x y z = if _ then
      (if x' = x ∧ z' = z ∧ F.HasHeight y then some tag else none).or (b.biome? x y z) else _
    cases hbiomes : b.biomes with
    | none =>
      rw [writeBiomeColumn_of_none hbiomes, if_neg fun hfits => ?_]
      exact Bool.false_ne_true ((hb.untracked hbiomes).symm.trans hfits.1)
    | some cells =>
      have hfits : (Call.biomeColumn x' z' tag).Fits F ↔ x' < cells.width ∧ z' < cells.length :=
        (and_iff_right (hb.tracked hbiomes).1).trans (hb.hasColumn_iff hbiomes).symm
      rw [if_congr hfits rfl rfl]
      by_cases hcol : x' < cells.width ∧ z' < cells.length
      · -- all heights of the frame are in the box of its biomes
        have hlevel : b.HasHeight y ∧ b.level y < cells.height ↔ F.HasHeight y :=
          (and_iff_left_of_imp (hb.level_lt (hb.tracked hbiomes).2)).trans hb.hasHeight_iff
        rw [biome?_writeBiomeColumn hbiomes hcol, if_pos hcol,
          if_congr (and_congr_left fun _ => hlevel) rfl rfl]
        by_cases hy : F.HasHeight y <;> by_cases hx : x' = x <;> by_cases hz : z' = z <;>
          simp [hy, hx, hz]
      · rw [writeBiomeColumn_of_outside hbiomes hcol, if_neg hcol]

/-! ## Many writes -/

/-- What is read after a list of writes, if a single write lies over what was read before it or
keeps it. -/
theorem read_after {β : Type} (read : Buffer → Option β) (give : Call → Option β)
    (hstep : ∀ b c, b.HasFrame F →
      read (Call.run b c).2 = if c.Succeeds b then (give c).or (read b) else read b)
    (hb : b.HasFrame F) (calls : List Call) :
    read (b.after calls) = ((b.succeeded calls).reverse.findSome? give).or (read b) := by
  induction calls generalizing b with
  | nil => rfl
  | cons c rest ih =>
    show read ((c.run b).2.after rest) = _
    -- the later writes come first in the reversed list
    rw [ih (hasFrame_run hb c), succeeded, List.reverse_append, List.findSome?_append,
      Option.or_assoc, hstep b c hb]
    congr 1
    by_cases hs : c.Succeeds b
    · rw [if_pos hs, if_pos hs, List.reverse_singleton]
      cases h : give c <;> simp [h]
    · rw [if_neg hs, if_neg hs]
      rfl

theorem hasFrame_after (hb : b.HasFrame F) (calls : List Call) : (b.after calls).HasFrame F := by
  induction calls generalizing b with
  | nil => exact hb
  | cons c rest ih => exact ih (hasFrame_run hb c)

/-- **Each cell shows the last voxel that was written to it.** -/
theorem voxel?_after (hF : F.Narrow) (hb : b.HasFrame F) (calls : List Call) :
    (b.after calls).voxel? x y z =
      ((b.succeeded calls).reverse.findSome? (Call.voxelAt? F x y z)).or (b.voxel? x y z) :=
  read_after (fun b => b.voxel? x y z) _ (fun _ c hb => voxel?_run hF hb c) hb calls

/-- **Each cell shows the last biome that was written to it.** -/
theorem biome?_after (hF : F.Narrow) (hb : b.HasFrame F) (calls : List Call) :
    (b.after calls).biome? x y z =
      ((b.succeeded calls).reverse.findSome? (Call.biomeAt? F x y z)).or (b.biome? x y z) :=
  read_after (fun b => b.biome? x y z) _ (fun _ c hb => biome?_run hF hb c) hb calls

/-! ## The whole content -/

/-- Only cells of the box show anything. -/
theorem fits_of_voxel? (hb : b.HasFrame F) {v : Voxel} (h : b.voxel? x y z = some v) :
    F.HasColumn x z ∧ F.HasHeight y := by
  unfold voxel? at h
  split at h
  · rename_i hy
    exact hb.accepts_iff.mp ⟨hy, Cells.inside_of_get? h⟩
  · cases h

theorem fits_of_biome? (hb : b.HasFrame F) {tag : BiomeTag} (h : b.biome? x y z = some tag) :
    F.tracks = true ∧ F.HasColumn x z ∧ F.HasHeight y := by
  unfold biome? at h
  split at h
  · rename_i hy
    obtain ⟨cells, hbiomes, h⟩ := Option.bind_eq_some_iff.mp h
    exact ⟨(hb.tracked hbiomes).1, (hb.inside_iff hbiomes).mp ⟨hy, Cells.inside_of_get? h⟩⟩
  · cases h

/-- The order of voxels: by height, then `z`, then `x`. -/
def Before (a b : Nat × Int × Nat × Voxel) : Prop :=
  a.2.1 < b.2.1 ∨ a.2.1 = b.2.1 ∧ (a.2.2.1 < b.2.2.1 ∨ a.2.2.1 = b.2.2.1 ∧ a.1 < b.1)

/-- **The voxels that the buffer shows are listed, and no others.** -/
theorem mem_voxelList_iff (hb : b.HasFrame F) {v : Voxel} :
    (x, y, z, v) ∈ b.voxelList ↔ b.voxel? x y z = some v := by
  rw [voxelList, List.mem_map]
  constructor
  · rintro ⟨⟨i, z', x', v'⟩, hmem, heq⟩
    obtain ⟨rfl, rfl, rfl, rfl⟩ : x' = x ∧ b.bottom.y + (i : Int) = y ∧ z' = z ∧ v' = v := by
      simpa using heq
    have hget := Cells.mem_toList_iff.mp hmem
    -- the heights of the box are those of the buffer
    have hheight : b.voxels.height = (b.top.y - b.bottom.y + 1).toNat := by
      rw [hb.bottom, hb.top]
      exact congrArg (·.2.2) hb.voxels
    have hlt : i < b.voxels.height := (Cells.inside_of_get? hget).2.1
    have hlevel : (b.bottom.y + (i : Int) - b.bottom.y).toNat = i := by omega
    rw [voxel?, if_pos ⟨by omega, by omega⟩, hlevel]
    exact hget
  · intro h
    unfold voxel? at h
    split at h
    · rename_i hy
      have hlevel : b.bottom.y + ((y - b.bottom.y).toNat : Int) = y := by
        have := hy.1
        omega
      refine ⟨((y - b.bottom.y).toNat, z, x, v), Cells.mem_toList_iff.mpr h, ?_⟩
      show (x, b.bottom.y + ((y - b.bottom.y).toNat : Int), z, v) = (x, y, z, v)
      rw [hlevel]
    · cases h

/-- **Voxels are listed in their order.** -/
theorem pairwise_voxelList (b : Buffer) : b.voxelList.Pairwise Before := by
  refine List.pairwise_map.mpr (b.voxels.pairwise_toList.imp ?_)
  rintro ⟨i, z, x, v⟩ ⟨i', z', x', v'⟩ h
  simp only [Cells.Before] at h
  simp only [Before]
  omega

/-! ## New buffers -/

/-- The frame of a new buffer is told by its corners. -/
theorem frame_of_new? {bottom top : BlockPos} {track : Bool} (h : new? bottom top track = .ok b) :
    b.frame = .between bottom top track := by
  rw [new?] at h
  split at h
  · cases h
  · obtain ⟨width, hwidth, h⟩ := Checked.bind_eq_ok_iff.mp h
    obtain ⟨length, hlength, h⟩ := Checked.bind_eq_ok_iff.mp h
    obtain ⟨height, -, h⟩ := Checked.bind_eq_ok_iff.mp h
    rw [← Except.ok.inj h, eq_of_extent hwidth, eq_of_extent hlength]
    cases track <;> rfl

end Buffer

/-- **A buffer is a finite map.** After any list of writes to a new buffer, each cell shows the
voxel and the biome of the last write to it that succeeded; which writes succeed is told by the box
alone; no cell outside of the box shows anything, and without biomes none shows a biome. A further
write changes voxels or biomes but not both, and nothing if it does not succeed. The list of all
voxels holds those that cells show, in the order of the cells. -/
theorem buffer_is_finite_map {bottom top : BlockPos} {track : Bool} {b₀ : Buffer}
    (hbottom : bottom.InRange) (htop : top.InRange)
    (hnew : Buffer.new? bottom top track = .ok b₀) (calls : List Buffer.Call) :
    (∀ x y z, (b₀.after calls).voxel? x y z = (b₀.succeeded calls).reverse.findSome?
      (Buffer.Call.voxelAt? (.between bottom top track) x y z)) ∧
    (∀ x y z, (b₀.after calls).biome? x y z = (b₀.succeeded calls).reverse.findSome?
      (Buffer.Call.biomeAt? (.between bottom top track) x y z)) ∧
    (∀ c : Buffer.Call, c.Succeeds (b₀.after calls) ↔ c.Fits (.between bottom top track)) ∧
    (∀ x y z, ¬ ((Frame.between bottom top track).HasColumn x z ∧ bottom.y ≤ y ∧ y ≤ top.y) →
      (b₀.after calls).voxel? x y z = none ∧ (b₀.after calls).biome? x y z = none) ∧
    (track = false → ∀ x y z, (b₀.after calls).biome? x y z = none) ∧
    (∀ (c : Buffer.Call) x y z,
      (¬ c.WritesVoxel → (c.run (b₀.after calls)).2.voxel? x y z = (b₀.after calls).voxel? x y z) ∧
      (c.WritesVoxel → (c.run (b₀.after calls)).2.biome? x y z = (b₀.after calls).biome? x y z) ∧
      (¬ c.Succeeds (b₀.after calls) →
        (c.run (b₀.after calls)).2.voxel? x y z = (b₀.after calls).voxel? x y z ∧
        (c.run (b₀.after calls)).2.biome? x y z = (b₀.after calls).biome? x y z)) ∧
    (∀ x y z v, (x, y, z, v) ∈ (b₀.after calls).voxelList ↔
      (b₀.after calls).voxel? x y z = some v) ∧
    (b₀.after calls).voxelList.Pairwise Buffer.Before := by
  have hfresh := Buffer.fresh_of_new? hbottom htop hnew
  have hF : (Frame.between bottom top track).Narrow := Buffer.frame_of_new? hnew ▸ hfresh.narrow
  have hb₀ : b₀.HasFrame (.between bottom top track) := Buffer.frame_of_new? hnew ▸ hfresh.frame
  have hb := Buffer.hasFrame_after hb₀ calls
  have hvoxel (x : Nat) (y : Int) (z : Nat) : b₀.voxel? x y z = none :=
    congrFun (congrFun (congrFun (congrArg Content.voxel hfresh.content) x) y) z
  have hbiome (x : Nat) (y : Int) (z : Nat) : b₀.biome? x y z = none :=
    congrFun (congrFun (congrFun (congrArg Content.biome hfresh.content) x) y) z
  refine ⟨?_, ?_, fun c => Buffer.succeeds_iff hF hb c, ?_, ?_, ?_,
    fun x y z v => Buffer.mem_voxelList_iff hb, Buffer.pairwise_voxelList _⟩
  · intro x y z
    rw [Buffer.voxel?_after hF hb₀, hvoxel, Option.or_none]
  · intro x y z
    rw [Buffer.biome?_after hF hb₀, hbiome, Option.or_none]
  · intro x y z hout
    constructor
    · exact Option.eq_none_iff_forall_ne_some.mpr fun v hv => hout (Buffer.fits_of_voxel? hb hv)
    · exact Option.eq_none_iff_forall_ne_some.mpr fun tag htag =>
        hout (Buffer.fits_of_biome? hb htag).2
  · rintro rfl x y z
    refine Option.eq_none_iff_forall_ne_some.mpr fun tag htag => ?_
    exact Bool.false_ne_true (Buffer.fits_of_biome? hb htag).1
  · intro c x y z
    have hrunVoxel := Buffer.voxel?_run hF hb c (x := x) (y := y) (z := z)
    have hrunBiome := Buffer.biome?_run hF hb c (x := x) (y := y) (z := z)
    refine ⟨?_, ?_, ?_⟩
    · intro hc
      rw [hrunVoxel]
      cases c with
      | voxel | pattern => exact absurd trivial hc
      | biome | biomeColumn => exact ite_self _
    · intro hc
      rw [hrunBiome]
      cases c with
      | voxel | pattern => exact ite_self _
      | biome | biomeColumn => exact hc.elim
    · intro hs
      rw [hrunVoxel, hrunBiome, if_neg hs, if_neg hs]
      exact ⟨rfl, rfl⟩

/-- A box of two columns and two heights without content. -/
def Buffer.tiny : Buffer :=
  ⟨⟨0, -1, 0⟩, ⟨1, 0, 0⟩, .empty 2 1 2, some (.empty 2 1 2)⟩

/-- Writes to it of all kinds; the third and the fifth fail. -/
def Buffer.tinyCalls : List Buffer.Call :=
  [.voxel 1 (-1) 0 ⟨⟨1, 0⟩, none⟩, .biomeColumn 0 0 3, .voxel 1 (-1) 2 ⟨⟨5, 0⟩, none⟩,
   .pattern 1 (-1) 0 (.const ⟨⟨2, 0⟩, some 4⟩), .biome 0 7 0 9]

/-- The last voxel stays, and so does the biome of the column. -/
theorem buffer_is_map_tiny : Buffer.new? ⟨0, -1, 0⟩ ⟨1, 0, 0⟩ true = .ok .tiny ∧
    (Buffer.tiny.after Buffer.tinyCalls).voxel? 1 (-1) 0 = some ⟨⟨2, 0⟩, some 4⟩ ∧
    (Buffer.tiny.after Buffer.tinyCalls).biome? 0 0 0 = some 3 ∧
    (1, -1, 0, ⟨⟨2, 0⟩, some 4⟩) ∈ (Buffer.tiny.after Buffer.tinyCalls).voxelList := by
  have hnew : Buffer.new? ⟨0, -1, 0⟩ ⟨1, 0, 0⟩ true = .ok .tiny := rfl
  obtain ⟨hvoxel, hbiome, -, -, -, -, hlist, -⟩ :=
    buffer_is_finite_map (by decide) (by decide) hnew Buffer.tinyCalls
  have hlast : (Buffer.tiny.after Buffer.tinyCalls).voxel? 1 (-1) 0 = some ⟨⟨2, 0⟩, some 4⟩ := by
    rw [hvoxel]
    decide
  refine ⟨hnew, hlast, ?_, (hlist ..).mpr hlast⟩
  rw [hbiome]
  decide

end PlotGrid
