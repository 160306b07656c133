import Mathlib.Data.Finset.Card
import Mathlib.Data.List.Nodup
import PlotGrid.Proofs.Chunk.History

/-!
# Layers and content

A layer appears when a write reaches its height, before the column of the write is looked at. So a
write that fails for its column leaves a layer without voxels, and the layers of a buffer are the
heights that writes have reached, while its voxels are at the heights of the writes that succeeded.
The number of layers tells about the content where these are the same heights.

- `Buffer.Call.reach?`, `Buffer.reached`: the height that a write reaches, and those of a list.
- `Buffer.HasLayer`, `Buffer.hasLayer_run`, `Buffer.hasLayer_after`: the heights with a layer, after
  one write and after a list of writes.
- `Buffer.layerCount_eq_card`: the number of layers.
- `Buffer.heights`, `Buffer.heights_after`: the heights of all voxels.
- `layers_tell_content_iff`: when the layers tell the content of a buffer that starts out new.
-/

namespace PlotGrid

/-! ## Layers of a box -/

namespace Cells

variable {α : Type} {c : Cells α} {x y z i : Nat}

/-- A height whose layer has appeared. -/
def HasLayer (c : Cells α) (i : Nat) : Prop :=
  c.layers[i]?.join.isSome

theorem not_hasLayer_empty {width length height : Nat} :
    ¬ (empty width length height : Cells α).HasLayer i := by
  rw [HasLayer, empty, Array.getElem?_replicate]
  split <;> exact Bool.false_ne_true

/-- A write makes the layer of its height appear, inside of the box or not. -/
theorem hasLayer_set {v : α} :
    (c.set x y z v).HasLayer i ↔ (y = i ∧ y < c.height) ∨ c.HasLayer i := by
  show (c.layers.modify y (setLayer x z v))[i]?.join.isSome ↔ _
  rw [Array.getElem?_modify]
  by_cases hy : y = i
  · subst hy
    rw [if_pos rfl]
    by_cases hin : y < c.height
    · rw [Array.getElem?_eq_getElem hin]
      exact iff_of_true rfl (.inl ⟨rfl, hin⟩)
    · rw [HasLayer, Array.getElem?_eq_none (Nat.le_of_not_lt hin), Option.map_none,
        or_iff_right fun h => hin h.2]
  · rw [if_neg hy, HasLayer, or_iff_right fun h => hy h.1]

end Cells

namespace Buffer

variable {F : Frame} {b : Buffer} {x z : Nat} {y y' : Int}

/-! ## Heights that writes reach -/

/-- The height that a write of a voxel reaches, whatever its column. A pattern reaches none if the
absolute position overflows. -/
def Call.reach? (F : Frame) : Call → Option Int
  | .voxel _ y _ _ => if F.HasHeight y then some y else none
  | .pattern x y z _ =>
    if F.HasHeight y ∧ Coord.InRange (F.bottom.x + Coord.wrap x) ∧
      Coord.InRange (F.bottom.z + Coord.wrap z) then some y else none
  | .biome .. | .biomeColumn .. => none

/-- The heights that writes reach. -/
def reached (F : Frame) (calls : List Call) : Finset Int :=
  (calls.filterMap (Call.reach? F)).toFinset

theorem mem_reached_iff {calls : List Call} :
    y ∈ reached F calls ↔ ∃ c ∈ calls, c.reach? F = some y := by
  rw [reached, List.mem_toFinset, List.mem_filterMap]

/-- A height of the buffer whose layer has appeared. -/
def HasLayer (b : Buffer) (y : Int) : Prop :=
  b.HasHeight y ∧ b.voxels.HasLayer (b.level y)

theorem hasLayer_write (hb : b.HasFrame F) (v : Voxel) :
    (b.write x y z v).2.HasLayer y' ↔ (F.HasHeight y ∧ y = y') ∨ b.HasLayer y' := by
  rw [← hb.hasHeight_iff]
  by_cases hy : b.HasHeight y
  · rw [write_of_hasHeight hy]
    show b.HasHeight y' ∧ (b.voxels.set x (b.level y) z v).HasLayer (b.level y') ↔ _
    rw [Cells.hasLayer_set, HasLayer, and_or_left, and_iff_right hy]
    refine or_congr_left ?_
    constructor
    · rintro ⟨hy', hlevel, -⟩
      exact level_inj hy hy' hlevel
    · rintro rfl
      exact ⟨hy, rfl, hb.level_lt hb.voxels hy⟩
  · rw [write_of_not_hasHeight hy, or_iff_right fun h => hy h.1]

/-- **A write makes the layer of the height that it reaches appear**, whatever its outcome. -/
theorem hasLayer_run (hb : b.HasFrame F) (c : Call) :
    (c.run b).2.HasLayer y' ↔ c.reach? F = some y' ∨ b.HasLayer y' := by
  cases c with
  | voxel x y z v =>
    have hreach : (Call.voxel x y z v).reach? F = some y' ↔ F.HasHeight y ∧ y = y' := by
      simp [Call.reach?]
    rw [hreach]
    exact hasLayer_write hb v
  | pattern x y z p =>
    show (b.writePattern x y z p).2.HasLayer y' ↔ _
    have hreach : (Call.pattern x y z p).reach? F = some y' ↔
        (Coord.InRange (b.bottom.x + Coord.wrap x) ∧ Coord.InRange (b.bottom.z + Coord.wrap z)) ∧
          F.HasHeight y ∧ y = y' := by
      rw [hb.bottom]
      simp [Call.reach?, and_left_comm, and_assoc]
    rw [hreach]
    unfold writePattern
    split
    · rename_i hx hz
      rw [and_iff_right ⟨(Coord.add_eq_ok_iff.mp hx).1, (Coord.add_eq_ok_iff.mp hz).1⟩]
      exact hasLayer_write hb _
    · rename_i hover
      rw [or_iff_right]
      rintro ⟨⟨hx, hz⟩, -⟩
      exact hover _ _ (Coord.add_eq_ok_iff.mpr ⟨hx, rfl⟩) (Coord.add_eq_ok_iff.mpr ⟨hz, rfl⟩)
  | biome x y z tag =>
    show (b.writeBiome x y z tag).2.HasLayer y' ↔ none = some y' ∨ _
    rw [or_iff_right (Option.some_ne_none y').symm]
    cases hbiomes : b.biomes with
    | none => rw [writeBiome_of_none hbiomes]
    | some cells =>
      rw [writeBiome_of_some hbiomes]
      split <;> rfl
  | biomeColumn x z tag =>
    show (b.writeBiomeColumn x z tag).2.HasLayer y' ↔ none = some y' ∨ _
    rw [or_iff_right (Option.some_ne_none y').symm]
    cases hbiomes : b.biomes with
    | none => rw [writeBiomeColumn_of_none hbiomes]
    | some cells =>
      by_cases hcol : x < cells.width ∧ z < cells.length
      · rw [writeBiomeColumn_of_some hbiomes hcol]
        rfl
      · rw [writeBiomeColumn_of_outside hbiomes hcol]

/-- **The layers after a list of writes are those of the heights that were reached.** -/
theorem hasLayer_after (hb : b.HasFrame F) (calls : List Call) :
    (b.after calls).HasLayer y ↔ y ∈ reached F calls ∨ b.HasLayer y := by
  rw [mem_reached_iff]
  induction calls generalizing b with
  | nil => simp [after]
  | cons c rest ih =>
    show ((c.run b).2.after rest).HasLayer y ↔ _
    rw [ih (hasFrame_run hb c), hasLayer_run hb c, List.exists_mem_cons_iff, ← or_assoc,
      or_comm (a := c.reach? F = some y)]

/-- **The number of layers is that of the heights that have one.** -/
theorem layerCount_eq_card (hb : b.HasFrame F) {heights : Finset Int}
    (h : ∀ y, y ∈ heights ↔ b.HasLayer y) : b.layerCount = heights.card := by
  have hnodup : ((present b.voxels.layers.toList).map fun entry =>
      b.bottom.y + (entry.1 : Int)).Nodup := by
    refine List.pairwise_map.mpr (pairwise_present.imp ?_)
    intro entry entry' hlt
    omega
  rw [layerCount, Cells.layerCount, ← length_present, ← List.length_map (f := fun entry =>
    b.bottom.y + (entry.1 : Int)), ← List.toFinset_card_of_nodup hnodup]
  congr 1
  ext y
  rw [h, List.mem_toFinset, List.mem_map, HasLayer, Cells.HasLayer, Option.isSome_iff_exists]
  have hheight : b.voxels.layers.size = (b.top.y - b.bottom.y + 1).toNat := by
    rw [hb.bottom, hb.top]
    exact congrArg (·.2.2) hb.voxels
  constructor
  · rintro ⟨⟨i, layer⟩, hmem, rfl⟩
    rw [mem_present_iff, Array.getElem?_toList] at hmem
    have hlt := (Array.getElem?_eq_some_iff.mp hmem).1
    have hlevel : b.level (b.bottom.y + (i : Int)) = i := by
      simp only [level]
      omega
    rw [hlevel, hmem]
    exact ⟨⟨by omega, by omega⟩, layer, rfl⟩
  · rintro ⟨⟨hlo, -⟩, layer, hlayer⟩
    refine ⟨(b.level y, layer), ?_, ?_⟩
    · rw [mem_present_iff, Array.getElem?_toList]
      exact Option.join_eq_some_iff.mp hlayer
    · simp only [level]
      omega

/-- A new buffer has no layers. -/
theorem not_hasLayer_of_new? {bottom top : BlockPos} {track : Bool}
    (h : new? bottom top track = .ok b) : ¬ b.HasLayer y := by
  rw [new?] at h
  split at h
  · cases h
  · obtain ⟨width, -, h⟩ := Checked.bind_eq_ok_iff.mp h
    obtain ⟨length, -, h⟩ := Checked.bind_eq_ok_iff.mp h
    obtain ⟨height, -, h⟩ := Checked.bind_eq_ok_iff.mp h
    rw [← Except.ok.inj h]
    exact fun hlayer => Cells.not_hasLayer_empty hlayer.2

/-! ## Heights of voxels -/

/-- The heights of all voxels. -/
def heights (b : Buffer) : Finset Int :=
  (b.voxelList.map fun cell => cell.2.1).toFinset

theorem mem_heights_iff (hb : b.HasFrame F) :
    y ∈ b.heights ↔ ∃ x z, (b.voxel? x y z).isSome := by
  simp only [heights, List.mem_toFinset, List.mem_map, Option.isSome_iff_exists]
  constructor
  · rintro ⟨⟨x, y, z, v⟩, hmem, rfl⟩
    exact ⟨x, z, v, (mem_voxelList_iff hb).mp hmem⟩
  · rintro ⟨x, z, v, hv⟩
    exact ⟨(x, y, z, v), (mem_voxelList_iff hb).mpr hv, rfl⟩

theorem heights_eq_empty_iff : b.heights = ∅ ↔ b.voxelList = [] := by
  rw [heights, List.toFinset_eq_empty_iff, List.map_eq_nil_iff]

theorem mem_succeeded_iff (hF : F.Narrow) (hb : b.HasFrame F) {calls : List Call} {c : Call} :
    c ∈ b.succeeded calls ↔ c ∈ calls ∧ c.Fits F := by
  induction calls generalizing b with
  | nil => simp [succeeded]
  | cons c' rest ih =>
    rw [succeeded, List.mem_append, ih (hasFrame_run hb c'), List.mem_cons, or_and_right,
      if_congr (succeeds_iff hF hb c') rfl rfl]
    refine or_congr_left ?_
    by_cases hfits : c'.Fits F
    · rw [if_pos hfits, List.mem_singleton]
      exact (and_iff_left_of_imp fun heq => heq ▸ hfits).symm
    · rw [if_neg hfits]
      exact iff_of_false List.not_mem_nil fun h => hfits (h.1 ▸ h.2)

/-- A write of a voxel that fits reaches the height that it writes to. -/
theorem reach?_eq_some_iff_of_fits (hF : F.Narrow) {c : Call} (hfits : c.Fits F) :
    c.reach? F = some y ↔ ∃ x z, (c.voxelAt? F x y z).isSome := by
  have hcell (x' z' : Nat) (y' : Int) (v : Nat → Nat → Voxel) : y' = y ↔
      ∃ x z, (if x' = x ∧ y' = y ∧ z' = z then some (v x z) else none).isSome := by
    simp
  cases c with
  | voxel x' y' z' v =>
    rw [Call.reach?, if_pos hfits.2, Option.some.injEq]
    exact hcell x' z' y' fun _ _ => v
  | pattern x' y' z' p =>
    -- the absolute position of a cell of the box does not overflow
    obtain ⟨hplaceX, hplaceZ⟩ := hF.inRange_place hfits.1
    obtain ⟨habsX, habsZ⟩ := hF.absolute x' z' hfits.1
    rw [← Coord.wrap_of_inRange hplaceX] at habsX
    rw [← Coord.wrap_of_inRange hplaceZ] at habsZ
    rw [Call.reach?, if_pos ⟨hfits.2, habsX, habsZ⟩, Option.some.injEq]
    exact hcell x' z' y' fun x z => F.see p x y z
  | biome | biomeColumn => simp [Call.reach?, Call.voxelAt?]

/-- **The voxels after a list of writes are at the heights of the writes that fit.** -/
theorem heights_after (hF : F.Narrow) (hb : b.HasFrame F)
    (hempty : ∀ x y z, b.voxel? x y z = none) (calls : List Call) :
    (b.after calls).heights = reached F (calls.filter fun c => c.Fits F) := by
  ext y
  simp only [mem_heights_iff (hasFrame_after hb calls), mem_reached_iff, voxel?_after hF hb, hempty,
    Option.or_none, List.findSome?_isSome_iff, List.mem_reverse, mem_succeeded_iff hF hb,
    List.mem_filter, decide_eq_true_eq]
  constructor
  · rintro ⟨x, z, c, ⟨hmem, hfits⟩, hsome⟩
    exact ⟨c, ⟨hmem, hfits⟩, (reach?_eq_some_iff_of_fits hF hfits).mpr ⟨x, z, hsome⟩⟩
  · rintro ⟨c, ⟨hmem, hfits⟩, hreach⟩
    obtain ⟨x, z, hsome⟩ := (reach?_eq_some_iff_of_fits hF hfits).mp hreach
    exact ⟨x, z, c, ⟨hmem, hfits⟩, hsome⟩

theorem reached_filter_subset {calls : List Call} {p : Call → Bool} :
    reached F (calls.filter p) ⊆ reached F calls := by
  intro y hy
  obtain ⟨c, hc, hreach⟩ := mem_reached_iff.mp hy
  exact mem_reached_iff.mpr ⟨c, (List.mem_filter.mp hc).1, hreach⟩

end Buffer

/-- **When the layers tell the content.** After any list of writes to a new buffer, those that fail
included, it has as many layers as heights were reached, it is empty iff none was, and its voxels
are at the heights that writes inside of the box reached. So the number of layers is that of the
heights with voxels iff each height that was reached was also reached from inside of the box; and
being empty tells that there are no voxels iff no write reached a height, or one did so from inside
of the box. -/
theorem layers_tell_content_iff {bottom top : BlockPos} {track : Bool} {b₀ : Buffer}
    (hbottom : bottom.InRange) (htop : top.InRange)
    (hnew : Buffer.new? bottom top track = .ok b₀) (calls : List Buffer.Call) :
    let F := Frame.between bottom top track
    let all := Buffer.reached F calls
    let inside := Buffer.reached F (calls.filter fun c => c.Fits F)
    (b₀.after calls).layerCount = all.card ∧
    ((b₀.after calls).isEmpty = true ↔ all = ∅) ∧
    (b₀.after calls).heights = inside ∧
    ((b₀.after calls).layerCount = (b₀.after calls).heights.card ↔ all ⊆ inside) ∧
    (((b₀.after calls).isEmpty = true ↔ (b₀.after calls).voxelList = []) ↔
      (all = ∅ ∨ inside ≠ ∅)) := by
  have hfresh := Buffer.fresh_of_new? hbottom htop hnew
  have hF : (Frame.between bottom top track).Narrow := Buffer.frame_of_new? hnew ▸ hfresh.narrow
  have hb₀ : b₀.HasFrame (.between bottom top track) := Buffer.frame_of_new? hnew ▸ hfresh.frame
  have hvoxel (x : Nat) (y : Int) (z : Nat) : b₀.voxel? x y z = none :=
    congrFun (congrFun (congrFun (congrArg Content.voxel hfresh.content) x) y) z
  intro F all inside
  have hcount : (b₀.after calls).layerCount = all.card := by
    refine Buffer.layerCount_eq_card (Buffer.hasFrame_after hb₀ calls) fun y => ?_
    rw [Buffer.hasLayer_after hb₀ calls, or_iff_left (Buffer.not_hasLayer_of_new? hnew)]
  have hempty : (b₀.after calls).isEmpty = true ↔ all = ∅ := by
    rw [Buffer.isEmpty, hcount, beq_iff_eq, Finset.card_eq_zero]
  have hheights : (b₀.after calls).heights = inside := Buffer.heights_after hF hb₀ hvoxel calls
  have hsubset : inside ⊆ all := Buffer.reached_filter_subset
  refine ⟨hcount, hempty, hheights, ?_, ?_⟩
  · rw [hcount, hheights]
    constructor
    · exact fun hcard => (Finset.eq_of_subset_of_card_le hsubset hcard.le).ge
    · exact fun hle => congrArg Finset.card (hle.antisymm hsubset)
  · rw [hempty, ← Buffer.heights_eq_empty_iff, hheights]
    constructor
    · rintro h
      exact or_iff_not_imp_left.mpr fun hne hnone => hne (h.mpr hnone)
    · rintro (hnone | hsome)
      · exact iff_of_true hnone (Finset.subset_empty.mp (hnone ▸ hsubset))
      · exact iff_of_false (fun hnone => hsome (Finset.subset_empty.mp (hnone ▸ hsubset))) hsome

/-- A write beside the box at a height that has a voxel, and one above it. -/
def Buffer.besideCalls : List Buffer.Call :=
  [.voxel 1 (-1) 0 ⟨⟨1, 0⟩, none⟩, .voxel 5 (-1) 0 ⟨⟨2, 0⟩, none⟩, .voxel 1 3 0 ⟨⟨3, 0⟩, none⟩]

/-- The writes that fail make no further layer. -/
theorem layers_tell_content_of_tiny : Buffer.new? ⟨0, -1, 0⟩ ⟨1, 0, 0⟩ true = .ok .tiny ∧
    (Buffer.tiny.after Buffer.besideCalls).layerCount = 1 ∧
    (Buffer.tiny.after Buffer.besideCalls).layerCount =
      (Buffer.tiny.after Buffer.besideCalls).heights.card := by
  have hnew : Buffer.new? ⟨0, -1, 0⟩ ⟨1, 0, 0⟩ true = .ok .tiny := rfl
  obtain ⟨hcount, -, -, htell, -⟩ :=
    layers_tell_content_iff (by decide) (by decide) hnew Buffer.besideCalls
  exact ⟨hnew, hcount.trans (by decide), htell.mpr (by decide)⟩

/-- A write beside the box leaves a layer in a buffer without voxels. -/
theorem write_beside_leaves_layer :
    let b := Buffer.tiny.after [.voxel 5 0 0 ⟨⟨1, 0⟩, none⟩]
    b.layerCount = 1 ∧ b.isEmpty = false ∧ b.voxelList = [] := by
  decide

end PlotGrid
