import PlotGrid.Proofs.Overlay.Stamping

/-!
# Overlays that start lower

An overlay may start lower and keep its voxels where they are, if its columns have as many open
entries more at their bottom. Such an overlay is what placements leave that go as much higher into
columns that are as much higher, and no pass can tell it from the other one.

- `OverlayColumn.pad`, `Placement.raise`: open entries at the bottom, and a placement above them.
- `Overlay.Padded`: an overlay starts lower than another one and shows the same voxels.
- `Overlay.Padded.place`, `Overlay.Padded.foldl`: placements that are raised keep that.
- `Overlay.ShowsLike`, `Overlay.Padded.showsLike`: no pass can tell the two overlays apart.
-/

namespace PlotGrid

/-! ## Columns -/

namespace OverlayColumn

/-- A column with open entries at its bottom. -/
def pad (k : Nat) (c : OverlayColumn) : OverlayColumn :=
  Array.replicate k none ++ c

@[simp] theorem size_pad (k : Nat) (c : OverlayColumn) : (c.pad k).size = k + c.size := by
  simp [pad]

@[simp] theorem voxels_pad (k : Nat) (c : OverlayColumn) : (c.pad k).voxels = c.voxels := by
  simp [pad, voxels]

/-- Above the open entries a column takes a voxel as it did at its bottom. -/
theorem columnAfter_pad (held : Option OverlayColumn) {y : Int} (hy : 0 ≤ y) (v : Voxel)
    (height k : Nat) :
    Draft.columnAfter (held.map (pad k)) (y + k) v (height + k) =
      pad k (Draft.columnAfter held y v height) := by
  have hstart : (held.map (pad k)).getD (Array.replicate (height + k) none) =
      pad k (held.getD (Array.replicate height none)) := by
    cases held with
    | some c => rfl
    | none => exact Nat.add_comm height k ▸ Array.replicate_append_replicate.symm
  have hindex : (y + k).toNat - k = y.toNat := by omega
  unfold Draft.columnAfter
  dsimp only
  rw [hstart, if_pos hy, if_pos (by omega), pad, pad, Array.setIfInBounds_append_right,
    Array.size_replicate, hindex]
  rw [Array.size_replicate]
  omega

/-- The entries of a column with open entries at its bottom. -/
theorem zipIdx_pad (k : Nat) (c : OverlayColumn) :
    (c.pad k).toList.zipIdx =
      (List.replicate k none).zipIdx ++ c.toList.zipIdx.map fun cell => (cell.1, k + cell.2) := by
  have hcells : c.toList.zipIdx k = c.toList.zipIdx.map fun cell => (cell.1, k + cell.2) :=
    List.zipIdx_eq_map_add
  rw [pad, Array.toList_append, Array.toList_replicate, List.zipIdx_append, List.length_replicate,
    Nat.zero_add, hcells]

end OverlayColumn

/-! ## Placements -/

namespace Placement

/-- A placement that goes so much higher, into a column that is so much higher. -/
def raise (k : Nat) : Placement → Placement
  | .voxel x y z v isTurned height => .voxel x (y + k) z v isTurned (height + k)
  | .biome x z tag => .biome x z tag

/-- A placement that is not below its column. -/
def Upright : Placement → Prop
  | .voxel _ y _ _ _ _ => 0 ≤ y
  | .biome _ _ _ => True

end Placement

namespace Overlay

/-- The first overlay starts so much lower than the second one, with as many open entries at the
bottom of each column. -/
structure Padded (k : Nat) (o o' : Overlay) : Prop where
  size : o.size = o'.size
  schemY : o.anchors.schemY + k = o'.anchors.schemY
  hasPlot : o.hasPlot = o'.hasPlot
  hasRoad : o.hasRoad = o'.hasRoad
  columns : ∀ key : Nat, o.columns[key]? = o'.columns[key]?.map (OverlayColumn.pad k)
  biomes : ∀ key : Nat, o.biomes[key]? = o'.biomes[key]?

namespace Padded

variable {k : Nat} {o o' : Overlay} {d d' : Draft} {reg : Registry}

/-- **One placement.** A placement that is raised leaves the overlay that starts lower. -/
theorem place (h : Padded k d.overlay d'.overlay) {p : Placement} (hp : p.Upright) :
    Padded k (d.place reg (p.raise k)).overlay (d'.place reg p).overlay where
  size := by rw [Draft.size_place, Draft.size_place, h.size]
  schemY := by rw [Draft.anchors_place, Draft.anchors_place, h.schemY]
  hasPlot := by rw [Draft.hasPlot_place, Draft.hasPlot_place, h.hasPlot]
  hasRoad := by rw [Draft.hasRoad_place, Draft.hasRoad_place, h.hasRoad]
  columns := by
    intro key
    cases p with
    | biome x z tag => exact h.columns key
    | voxel x y z v isTurned height =>
      simp only [Placement.raise, Draft.place, Draft.getElem?_putVoxel, h.size]
      split
      · rw [h.columns, OverlayColumn.columnAfter_pad _ hp, Option.map_some]
      · exact h.columns key
  biomes := by
    intro key
    have hset : (p.raise k).biomeSet? d.overlay.size key = p.biomeSet? d'.overlay.size key := by
      rw [h.size]
      cases p <;> rfl
    rw [Draft.biomes_place, Draft.biomes_place, hset, h.biomes]

/-- **A run of placements.** -/
theorem foldl (ps : List Placement) (hps : ∀ p ∈ ps, p.Upright)
    (h : Padded k d.overlay d'.overlay) :
    Padded k ((ps.map (Placement.raise k)).foldl (Draft.place reg) d).overlay
      (ps.foldl (Draft.place reg) d').overlay := by
  induction ps generalizing d d' with
  | nil => exact h
  | cons p rest ih =>
    rw [List.map_cons, List.foldl_cons, List.foldl_cons]
    exact ih (fun q hq => hps q (List.mem_cons_of_mem p hq))
      (h.place (hps p List.mem_cons_self))

end Padded

/-! ## Passes -/

/-- No pass can tell the two overlays apart. -/
structure ShowsLike (o o' : Overlay) : Prop where
  hasPlot : o.hasPlot = o'.hasPlot
  hasRoad : o.hasRoad = o'.hasRoad
  stamp : ∀ h c entities, o.stamp h c entities = o'.stamp h c entities
  biome : ∀ x z, o.biome? x z = o'.biome? x z
  hasEntity : ∀ x z, o.hasEntity x z = o'.hasEntity x z

theorem ShowsLike.appliesTo {o o' : Overlay} (h : o.ShowsLike o') (kind : ColumnKind) :
    o.appliesTo kind = o'.appliesTo kind := by
  cases kind with
  | road | wall => exact h.hasRoad
  | plot => exact h.hasPlot

/-- Overlays without content show alike wherever they start. -/
theorem showsLike_of_empty {o o' : Overlay} (hplot : o.hasPlot = o'.hasPlot)
    (hroad : o.hasRoad = o'.hasRoad) (hcolumns : o.columns = ∅) (hcolumns' : o'.columns = ∅)
    (hbiomes : o.biomes = ∅) (hbiomes' : o'.biomes = ∅) : o.ShowsLike o' where
  hasPlot := hplot
  hasRoad := hroad
  stamp h c entities := by simp [stamp, column?, hcolumns, hcolumns']
  biome x z := by simp [biome?, hbiomes, hbiomes']
  hasEntity x z := by simp [hasEntity, column?, hcolumns, hcolumns']

/-- Write entries of a column, with the result of those before them. -/
def stampCells (o : Overlay) (h : HeightRange) (x z : Nat) (entities : Bool)
    (cells : List (Option Voxel × Nat)) (wrote : Bool) : Fill Bool :=
  cells.foldlM (fun wrote cell => do
    return (← o.stampCell h x z entities cell) || wrote) wrote

theorem stampCells_append (o : Overlay) (h : HeightRange) (x z : Nat) (entities : Bool)
    (cells above : List (Option Voxel × Nat)) (wrote : Bool) :
    o.stampCells h x z entities (cells ++ above) wrote =
      o.stampCells h x z entities cells wrote >>= o.stampCells h x z entities above :=
  List.foldlM_append

/-- Open entries are skipped. -/
theorem stampCells_open (o : Overlay) (h : HeightRange) (x z : Nat) (entities : Bool)
    {cells : List (Option Voxel × Nat)} (hopen : ∀ cell ∈ cells, cell.1 = none) (wrote : Bool) :
    o.stampCells h x z entities cells wrote = pure wrote := by
  induction cells with
  | nil => rfl
  | cons cell rest ih =>
    have hcell : o.stampCell h x z entities cell = pure false := by
      rw [stampCell, hopen cell List.mem_cons_self]
    rw [stampCells, List.foldlM_cons, hcell]
    exact ih fun other hother => hopen other (List.mem_cons_of_mem cell hother)

namespace Padded

variable {k : Nat} {o o' : Overlay} {h : HeightRange} {x z : Nat} {entities : Bool}

/-- An entry above the open ones is written at the height that it has without them. -/
theorem stampCell (hpad : Padded k o o') (entry : Option Voxel) {i : Nat}
    (hi : Coord.InRange ((k + i : Nat) : Int)) :
    o.stampCell h x z entities (entry, k + i) = o'.stampCell h x z entities (entry, i) := by
  have hrange := Coord.inRange_iff.mp hi
  have hlow : Coord.InRange (i : Int) := Coord.inRange_iff.mpr ⟨by omega, by omega⟩
  have hheight : Coord.add o.anchors.schemY (Coord.wrap ((k + i : Nat) : Int)) =
      Coord.add o'.anchors.schemY (Coord.wrap (i : Int)) := by
    rw [Coord.wrap_of_inRange hi, Coord.wrap_of_inRange hlow, Coord.add, Coord.add,
      ← hpad.schemY, Int.natCast_add, Int.add_assoc]
  cases entry with
  | none => rfl
  | some v =>
    unfold Overlay.stampCell
    dsimp only
    rw [hheight]

theorem stampCells (hpad : Padded k o o') {cells : List (Option Voxel × Nat)}
    (hcells : ∀ cell ∈ cells, Coord.InRange ((k + cell.2 : Nat) : Int)) (wrote : Bool) :
    o.stampCells h x z entities (cells.map fun cell => (cell.1, k + cell.2)) wrote =
      o'.stampCells h x z entities cells wrote := by
  induction cells generalizing wrote with
  | nil => rfl
  | cons cell rest ih =>
    rw [List.map_cons, Overlay.stampCells, Overlay.stampCells, List.foldlM_cons, List.foldlM_cons,
      hpad.stampCell cell.1 (hcells cell List.mem_cons_self)]
    refine bind_congr ?_
    intro wrote'
    exact ih (fun other hother => hcells other (List.mem_cons_of_mem cell hother)) wrote'

/-- **An overlay that starts lower shows the same**, as long as the heights of its columns are
coordinates. -/
theorem showsLike (hpad : Padded k o o') (ho : o.Narrow) : o.ShowsLike o' where
  hasPlot := hpad.hasPlot
  hasRoad := hpad.hasRoad
  stamp h c entities := by
    unfold stamp column?
    rw [hpad.size, hpad.columns]
    cases hcolumn : o'.columns[Cell.key o'.size c.rx c.rz]? with
    | none => rfl
    | some column =>
      have hcount : o.columnSize? (Cell.key o'.size c.rx c.rz) = some (k + column.size) := by
        rw [columnSize?, hpad.columns, hcolumn, Option.map_some, Option.map_some,
          OverlayColumn.size_pad]
      have hsize := Coord.inRange_iff.mp (ho _ _ hcount)
      show o.stampCells h c.x c.z entities (column.pad k).toList.zipIdx false =
        o'.stampCells h c.x c.z entities column.toList.zipIdx false
      -- the open entries come first, and the others are those of the column itself
      rw [OverlayColumn.zipIdx_pad, stampCells_append, stampCells_open, pure_bind]
      · refine hpad.stampCells ?_ false
        intro cell hcell
        have hlt := List.snd_lt_of_mem_zipIdx hcell
        rw [Array.length_toList] at hlt
        exact Coord.inRange_iff.mpr ⟨by omega, by omega⟩
      · intro cell hcell
        exact List.eq_of_mem_replicate (List.fst_mem_of_mem_zipIdx hcell)
  biome x z := by rw [biome?, biome?, hpad.size, hpad.biomes]
  hasEntity x z := by
    unfold hasEntity column?
    rw [hpad.size, hpad.columns, Option.any_map]
    congr 1
    funext column
    rw [OverlayColumn.voxels_pad]

end Padded

end Overlay

end PlotGrid
