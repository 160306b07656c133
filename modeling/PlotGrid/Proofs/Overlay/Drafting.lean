import PlotGrid.Overlay.Build

/-!
# What placements leave behind

An overlay is built by carrying out placements one after the other. What is left in the end can be
told from the list of placements alone:

- a column is as high as its first placement says (`Draft.columnSize?_foldl`);
- a cell within its column shows the last voxel that was placed there (`Draft.held?_foldl`);
- a position has the biome that was placed there last (`Draft.biomes_foldl`);
- if every placement fits into its column, none is dropped (`Draft.dropped_foldl`), and if no two
  go to one cell, the voxels of the overlay are those of the placements
  (`Draft.voxels_foldl_perm`).

Each of them is an induction on the list that follows from what one placement does.
-/

namespace PlotGrid

/-- The first result of a list is the only one that entries of the list give. -/
theorem findSome?_eq_some_of_unique {α β : Type} {f : α → Option β} {l : List α} {a : α} {b : β}
    (ha : a ∈ l) (hab : f a = some b) (hunique : ∀ a' ∈ l, ∀ b', f a' = some b' → b' = b) :
    l.findSome? f = some b := by
  cases hfind : l.findSome? f with
  | none =>
    rw [List.findSome?_eq_none_iff.mp hfind a ha] at hab
    cases hab
  | some b' =>
    obtain ⟨a', ha', hb'⟩ := List.exists_of_findSome?_eq_some hfind
    rw [hunique a' ha' b' hb']

/-! ## Columns by number -/

namespace Overlay

/-- The height of the column with a number. -/
def columnSize? (o : Overlay) (key : Nat) : Option Nat :=
  o.columns[key]?.map Array.size

/-- The voxel at an index of the column with a number. -/
def held? (o : Overlay) (key i : Nat) : Option Voxel :=
  o.columns[key]?.bind fun column => column[i]?.join

/-- The voxel at an index of the column at a position. -/
def cell? (o : Overlay) (x z i : Int) : Option Voxel :=
  if 0 ≤ i then o.held? (Cell.key o.size x z) i.toNat else none

theorem held?_eq_none_of_size {o : Overlay} {key i : Nat}
    (h : ∀ n, o.columnSize? key = some n → n ≤ i) : o.held? key i = none := by
  unfold columnSize? at h
  unfold held?
  cases hc : o.columns[key]? with
  | none => rfl
  | some c =>
    have hi : c.size ≤ i := h c.size (by rw [hc]; rfl)
    simp [Array.getElem?_eq_none hi]

end Overlay

/-! ## Single placements -/

namespace Placement

/-- The height that a placement asks for the column with a number. -/
def heightAt? (size : Int) (key : Nat) : Placement → Option Nat
  | .voxel x _ z _ _ height => if Cell.key size x z = key then some height else none
  | .biome _ _ _ => none

/-- The cell of a placement: the number of its column and its index. -/
def spot? (size : Int) : Placement → Option (Nat × Int)
  | .voxel x y z _ _ _ => some (Cell.key size x z, y)
  | .biome _ _ _ => none

/-- The voxel of a placement as it is shown. -/
def shown? (reg : Registry) : Placement → Option Voxel
  | .voxel _ _ _ v isTurned _ => some (if isTurned then reg.turn v else v)
  | .biome _ _ _ => none

/-- The voxel that a placement puts into a cell. -/
def voxelAt? (reg : Registry) (size : Int) (key i : Nat) (p : Placement) : Option Voxel :=
  if p.spot? size = some (key, (i : Int)) then p.shown? reg else none

/-- The biome that a placement puts at the position with a number; none takes one away. -/
def biomeSet? (size : Int) (key : Nat) : Placement → Option (Option BiomeTag)
  | .biome x z tag => if Cell.key size x z = key then some tag else none
  | .voxel _ _ _ _ _ _ => none

/-- A placement into a column that is high enough, by the heights of all columns. -/
def Fits (size : Int) (heights : Nat → Option Nat) : Placement → Prop
  | .voxel x y z _ _ _ => ∃ n, heights (Cell.key size x z) = some n ∧ 0 ≤ y ∧ y < n
  | .biome _ _ _ => True

theorem nonneg_of_fits {size : Int} {heights : Nat → Option Nat} {p : Placement} {key : Nat}
    {y : Int} (h : p.Fits size heights) (hspot : p.spot? size = some (key, y)) : 0 ≤ y := by
  cases p with
  | biome x z tag => cases hspot
  | voxel x y' z v isTurned height =>
    obtain ⟨n, -, h0, -⟩ := h
    simp only [spot?, Option.some.injEq, Prod.mk.injEq] at hspot
    exact hspot.2 ▸ h0

end Placement

namespace Draft

variable {reg : Registry}

@[simp] theorem size_place (d : Draft) (p : Placement) :
    (d.place reg p).overlay.size = d.overlay.size := by
  cases p <;> rfl

@[simp] theorem anchors_place (d : Draft) (p : Placement) :
    (d.place reg p).overlay.anchors = d.overlay.anchors := by
  cases p <;> rfl

@[simp] theorem hasPlot_place (d : Draft) (p : Placement) :
    (d.place reg p).overlay.hasPlot = d.overlay.hasPlot := by
  cases p <;> rfl

@[simp] theorem hasRoad_place (d : Draft) (p : Placement) :
    (d.place reg p).overlay.hasRoad = d.overlay.hasRoad := by
  cases p <;> rfl

/-- The column that a voxel leaves where there may have been one before. -/
def columnAfter (held : Option OverlayColumn) (y : Int) (v : Voxel) (height : Nat) :
    OverlayColumn :=
  let column := held.getD (Array.replicate height none)
  if 0 ≤ y then column.setIfInBounds y.toNat (some v) else column

theorem getElem?_putVoxel (o : Overlay) (key k : Nat) (y : Int) (v : Voxel) (height : Nat) :
    (putVoxel o key y v height).columns[k]? =
      if key = k then some (columnAfter o.columns[key]? y v height) else o.columns[k]? := by
  simp only [putVoxel, Std.HashMap.getElem?_alter, beq_iff_eq]
  rfl

theorem size_columnAfter (held : Option OverlayColumn) (y : Int) (v : Voxel) (height : Nat) :
    (columnAfter held y v height).size = (held.map Array.size).getD height := by
  unfold columnAfter
  cases held <;> split <;> simp

/-- The entry at an index of the column after a voxel was put there. -/
theorem getElem?_columnAfter {held : Option OverlayColumn} {y : Int} {v : Voxel} {height i : Nat}
    (hi : i < (columnAfter held y v height).size) :
    (columnAfter held y v height)[i]?.join =
      if y = i then some v else held.bind fun column => column[i]?.join := by
  rw [size_columnAfter] at hi
  unfold columnAfter
  -- a negative height is written nowhere
  by_cases hy : 0 ≤ y
  · rw [if_pos hy, Array.getElem?_setIfInBounds]
    cases held with
    | none =>
      simp only [Option.map_none, Option.getD_none] at hi
      by_cases hyi : y = i
      · simp [hyi, hi]
      · have hne : y.toNat ≠ i := by omega
        simp [hyi, hne, hi]
    | some c =>
      simp only [Option.map_some, Option.getD_some] at hi
      by_cases hyi : y = i
      · simp [hyi, hi]
      · have hne : y.toNat ≠ i := by omega
        simp [hyi, hne]
  · have hyi : y ≠ i := by omega
    rw [if_neg hy, if_neg hyi]
    cases held with
    | none =>
      rw [Option.getD_none, Array.getElem?_replicate]
      split <;> rfl
    | some c => rfl

/-- A placement makes the column that it goes to unless there is one. -/
theorem columnSize?_place (d : Draft) (p : Placement) (key : Nat) :
    (d.place reg p).overlay.columnSize? key =
      (d.overlay.columnSize? key).or (p.heightAt? d.overlay.size key) := by
  cases p with
  | biome x z tag => simp [place, putBiome, Overlay.columnSize?, Placement.heightAt?]
  | voxel x y z v isTurned height =>
    simp only [place, Overlay.columnSize?, getElem?_putVoxel, Placement.heightAt?]
    by_cases hk : Cell.key d.overlay.size x z = key
    · subst hk
      rw [if_pos rfl, if_pos rfl, Option.map_some, size_columnAfter]
      cases d.overlay.columns[Cell.key d.overlay.size x z]? <;> rfl
    · rw [if_neg hk, if_neg hk, Option.or_none]

/-- A placement shows in its cell if the cell is within the column; all other cells stay. -/
theorem held?_place {d : Draft} {p : Placement} {key i n : Nat}
    (hsize : (d.place reg p).overlay.columnSize? key = some n) (hi : i < n) :
    (d.place reg p).overlay.held? key i =
      (p.voxelAt? reg d.overlay.size key i).or (d.overlay.held? key i) := by
  cases p with
  | biome x z tag => simp [place, putBiome, Overlay.held?, Placement.voxelAt?, Placement.spot?]
  | voxel x y z v isTurned height =>
    simp only [place, Overlay.columnSize?, getElem?_putVoxel] at hsize
    simp only [place, Overlay.held?, getElem?_putVoxel, Placement.voxelAt?, Placement.spot?,
      Placement.shown?, Option.some.injEq, Prod.mk.injEq]
    by_cases hk : Cell.key d.overlay.size x z = key
    · subst hk
      rw [if_pos rfl, Option.map_some, Option.some.injEq] at hsize
      rw [if_pos rfl, Option.bind_some, getElem?_columnAfter (hsize ▸ hi)]
      by_cases hyi : y = i
      · simp [hyi]
      · simp [hyi]
    · rw [if_neg hk, if_neg (fun h => hk h.1), Option.none_or]

/-- A placement that fits is not dropped. -/
theorem dropped_place {d : Draft} {p : Placement}
    (hfits : p.Fits d.overlay.size (d.place reg p).overlay.columnSize?) :
    (d.place reg p).dropped = d.dropped := by
  cases p with
  | biome x z tag => rfl
  | voxel x y z v isTurned height =>
    obtain ⟨n, hn, h0, hlt⟩ := hfits
    rw [columnSize?_place, Placement.heightAt?, if_pos rfl] at hn
    have hheld : columnHeight d.overlay (Cell.key d.overlay.size x z) height = n := by
      unfold Overlay.columnSize? at hn
      unfold columnHeight
      cases hc : d.overlay.columns[Cell.key d.overlay.size x z]? with
      | none => simpa [hc] using hn
      | some c => simpa [hc] using hn
    show (if 0 ≤ y ∧ y < ↑(columnHeight d.overlay _ height) then d.dropped else _) = d.dropped
    rw [hheld, if_pos ⟨h0, hlt⟩]

/-- A biome is put at its own position and nowhere else. -/
theorem biomes_place (d : Draft) (p : Placement) (key : Nat) :
    (d.place reg p).overlay.biomes[key]? =
      (p.biomeSet? d.overlay.size key).getD d.overlay.biomes[key]? := by
  cases p with
  | voxel x y z v isTurned height => rfl
  | biome x z tag =>
    simp only [place, putBiome, Placement.biomeSet?]
    by_cases hk : Cell.key d.overlay.size x z = key
    · cases tag <;> simp [hk]
    · cases tag with
      | none => simp [Std.HashMap.getElem?_erase, hk]
      | some t => simp [Std.HashMap.getElem?_insert, hk]

/-! ## Runs of placements -/

/-- Columns once made keep their height. -/
theorem columnSize?_foldl (ps : List Placement) (d : Draft) (key : Nat) :
    (ps.foldl (place reg) d).overlay.columnSize? key =
      (d.overlay.columnSize? key).or (ps.findSome? (Placement.heightAt? d.overlay.size key)) := by
  induction ps generalizing d with
  | nil => simp
  | cons p rest ih =>
    rw [List.foldl_cons, ih, size_place, columnSize?_place, List.findSome?_cons, Option.or_assoc]
    cases Placement.heightAt? d.overlay.size key p with
    | none => rw [Option.none_or]
    | some n => rw [Option.some_or]

@[simp] theorem size_foldl (ps : List Placement) (d : Draft) :
    (ps.foldl (place reg) d).overlay.size = d.overlay.size := by
  induction ps generalizing d with
  | nil => rfl
  | cons p rest ih => rw [List.foldl_cons, ih, size_place]

@[simp] theorem anchors_foldl (ps : List Placement) (d : Draft) :
    (ps.foldl (place reg) d).overlay.anchors = d.overlay.anchors := by
  induction ps generalizing d with
  | nil => rfl
  | cons p rest ih => rw [List.foldl_cons, ih, anchors_place]

@[simp] theorem hasPlot_foldl (ps : List Placement) (d : Draft) :
    (ps.foldl (place reg) d).overlay.hasPlot = d.overlay.hasPlot := by
  induction ps generalizing d with
  | nil => rfl
  | cons p rest ih => rw [List.foldl_cons, ih, hasPlot_place]

@[simp] theorem hasRoad_foldl (ps : List Placement) (d : Draft) :
    (ps.foldl (place reg) d).overlay.hasRoad = d.overlay.hasRoad := by
  induction ps generalizing d with
  | nil => rfl
  | cons p rest ih => rw [List.foldl_cons, ih, hasRoad_place]

/-- A placement that shows a voxel in a column has asked for the column. -/
theorem voxelAt?_eq_none_of_heightAt? {size : Int} {key : Nat} {p : Placement}
    (h : p.heightAt? size key = none) (i : Nat) : p.voxelAt? reg size key i = none := by
  cases p with
  | biome x z tag => simp [Placement.voxelAt?, Placement.spot?]
  | voxel x y z v isTurned height =>
    simp only [Placement.heightAt?] at h
    have hk : Cell.key size x z ≠ key := fun hk => by simp [hk] at h
    simp [Placement.voxelAt?, Placement.spot?, hk]

/-- **The last placement in a cell wins.** -/
theorem held?_foldl {ps : List Placement} {d : Draft} {key i n : Nat}
    (hsize : (ps.foldl (place reg) d).overlay.columnSize? key = some n) (hi : i < n) :
    (ps.foldl (place reg) d).overlay.held? key i =
      (ps.reverse.findSome? (Placement.voxelAt? reg d.overlay.size key i)).or
        (d.overlay.held? key i) := by
  induction ps generalizing d with
  | nil => simp
  | cons p rest ih =>
    rw [List.foldl_cons] at hsize ⊢
    -- the later placements come first in the reversed list
    rw [ih hsize, size_place, List.reverse_cons, List.findSome?_append, Option.or_assoc]
    congr 1
    have hone : [p].findSome? (Placement.voxelAt? reg d.overlay.size key i) =
        p.voxelAt? reg d.overlay.size key i := by
      cases h : p.voxelAt? reg d.overlay.size key i <;> simp [h]
    rw [hone]
    rw [columnSize?_foldl, size_place] at hsize
    cases hm : (d.place reg p).overlay.columnSize? key with
    | some m =>
      rw [hm, Option.some_or, Option.some.injEq] at hsize
      exact held?_place hm (hsize ▸ hi)
    | none =>
      -- the column is not there yet, so neither side can hold a voxel
      have hnone := hm
      rw [columnSize?_place, Option.or_eq_none_iff] at hnone
      have hempty {o : Overlay} (ho : o.columnSize? key = none) : o.held? key i = none := by
        refine Overlay.held?_eq_none_of_size ?_
        intro k hk
        rw [ho] at hk
        cases hk
      rw [hempty hm, voxelAt?_eq_none_of_heightAt? hnone.2, hempty hnone.1]
      rfl

/-- **The last biome at a position wins.** -/
theorem biomes_foldl (ps : List Placement) (d : Draft) (key : Nat) :
    (ps.foldl (place reg) d).overlay.biomes[key]? =
      (ps.reverse.findSome? (Placement.biomeSet? d.overlay.size key)).getD
        d.overlay.biomes[key]? := by
  induction ps generalizing d with
  | nil => rfl
  | cons p rest ih =>
    rw [List.foldl_cons, ih, size_place, biomes_place, List.reverse_cons, List.findSome?_append]
    cases rest.reverse.findSome? (Placement.biomeSet? d.overlay.size key) with
    | some tag => rfl
    | none => cases h : p.biomeSet? d.overlay.size key <;> simp [h]

/-- What fits into its column in the end fits into it when it is placed. -/
theorem fits_place {ps : List Placement} {d : Draft} {p : Placement}
    (hfits : p.Fits d.overlay.size (ps.foldl (place reg) (d.place reg p)).overlay.columnSize?) :
    p.Fits d.overlay.size (d.place reg p).overlay.columnSize? := by
  cases p with
  | biome x z tag => trivial
  | voxel x y z v isTurned height =>
    obtain ⟨n, hn, hy⟩ := hfits
    -- a column keeps the height that its first placement gave it
    refine ⟨n, ?_, hy⟩
    rw [columnSize?_foldl, columnSize?_place, Placement.heightAt?, if_pos rfl] at hn
    rw [columnSize?_place, Placement.heightAt?, if_pos rfl]
    cases hc : d.overlay.columnSize? (Cell.key d.overlay.size x z) with
    | none => simpa [hc] using hn
    | some m => simpa [hc] using hn

/-- If every placement fits into its column as it is in the end, none is dropped. -/
theorem dropped_foldl {ps : List Placement} {d : Draft}
    (hfits : ∀ p ∈ ps, p.Fits d.overlay.size (ps.foldl (place reg) d).overlay.columnSize?) :
    (ps.foldl (place reg) d).dropped = d.dropped := by
  induction ps generalizing d with
  | nil => rfl
  | cons p rest ih =>
    rw [List.foldl_cons] at hfits ⊢
    rw [ih fun q hq => by rw [size_place]; exact hfits q (List.mem_cons_of_mem p hq)]
    exact dropped_place (fits_place (hfits p List.mem_cons_self))

/-! ## The voxels of an overlay -/

/-- A voxel that is put into an empty entry joins the voxels of the column. -/
theorem filterMap_set_perm {column : List (Option Voxel)} {i : Nat} (h : column[i]? = some none)
    (v : Voxel) : ((column.set i (some v)).filterMap id).Perm (v :: column.filterMap id) := by
  induction column generalizing i with
  | nil => simp at h
  | cons entry rest ih =>
    cases i with
    | zero =>
      rw [List.getElem?_cons_zero, Option.some.injEq] at h
      subst h
      simp
    | succ i =>
      rw [List.getElem?_cons_succ] at h
      rw [List.set_cons_succ]
      cases entry with
      | none => simpa using ih h
      | some w =>
        simp only [List.filterMap_cons, id]
        exact ((ih h).cons w).trans (List.Perm.swap v w _)

theorem voxels_columnAfter_perm {held : Option OverlayColumn} {y : Int} {v : Voxel} {height : Nat}
    (h0 : 0 ≤ y) (hlt : y < (columnAfter held y v height).size)
    (hfree : held.bind (fun column => column[y.toNat]?.join) = none) :
    (columnAfter held y v height).voxels.Perm
      (v :: (held.map OverlayColumn.voxels).getD []) := by
  rw [size_columnAfter] at hlt
  -- the entry was empty, in a new column as in an old one
  have hentry : (held.getD (Array.replicate height none)).toList[y.toNat]? = some none := by
    rw [Array.getElem?_toList]
    cases held with
    | none =>
      simp only [Option.map_none, Option.getD_none] at hlt ⊢
      rw [Array.getElem?_replicate, if_pos (by omega)]
    | some c =>
      simp only [Option.map_some, Option.getD_some] at hlt ⊢
      have hin : y.toNat < c.size := by omega
      simpa [Array.getElem?_eq_getElem hin] using hfree
  unfold columnAfter
  simp only [if_pos h0, OverlayColumn.voxels, Array.toList_setIfInBounds]
  refine (filterMap_set_perm hentry v).trans ?_
  cases held with
  | none => simp [List.filterMap_replicate_of_none]
  | some c => simp [OverlayColumn.voxels]

/-- The entries of a map with one entry in front. -/
theorem toList_perm_of_getElem? {m : Std.HashMap Nat OverlayColumn} {key : Nat} {c : OverlayColumn}
    (h : m[key]? = some c) : m.toList.Perm ((key, c) :: m.toList.filter (¬key == ·.1)) := by
  -- inserting what is there changes nothing but the order
  have heq : m.Equiv (m.insert key c) := by
    refine Std.HashMap.Equiv.of_forall_getElem?_eq fun k => ?_
    rw [Std.HashMap.getElem?_insert]
    by_cases hk : key = k
    · simp [← hk, h]
    · simp [hk]
  exact heq.toList_perm.trans Std.HashMap.toList_insert_perm

theorem toList_alter_perm {m : Std.HashMap Nat OverlayColumn} (key : Nat) {c : OverlayColumn}
    {f : Option OverlayColumn → Option OverlayColumn} (hf : f m[key]? = some c) :
    (m.alter key f).toList.Perm ((key, c) :: m.toList.filter (¬key == ·.1)) := by
  have heq : (m.alter key f).Equiv (m.insert key c) := by
    refine Std.HashMap.Equiv.of_forall_getElem?_eq fun k => ?_
    rw [Std.HashMap.getElem?_insert, Std.HashMap.getElem?_alter]
    by_cases hk : key = k
    · simp [hk ▸ hf, hk]
    · simp [hk]
  exact heq.toList_perm.trans Std.HashMap.toList_insert_perm

/-- The voxels of an overlay are those of one column and those of all others. -/
theorem voxels_perm_of_column (o : Overlay) (key : Nat) :
    o.voxels.Perm ((o.columns[key]?.map OverlayColumn.voxels).getD [] ++
      (o.columns.toList.filter (¬key == ·.1)).flatMap fun c => c.2.voxels) := by
  unfold Overlay.voxels
  cases hc : o.columns[key]? with
  | none =>
    have hfilter : o.columns.toList.filter (¬key == ·.1) = o.columns.toList := by
      refine List.filter_eq_self.mpr ?_
      intro entry hmem
      have hget := Std.HashMap.mem_toList_iff_getElem?_eq_some.mp hmem
      have hne : key ≠ entry.1 := by
        rintro rfl
        rw [hc] at hget
        cases hget
      simpa using hne
    rw [hfilter]
    exact List.Perm.refl _
  | some c =>
    exact (toList_perm_of_getElem? hc).flatMap_right fun c => c.2.voxels

/-- A voxel that is put into an empty cell of a column joins the voxels of the overlay. -/
theorem voxels_putVoxel_perm {o : Overlay} {key : Nat} {y : Int} {v : Voxel} {height n : Nat}
    (hsize : (putVoxel o key y v height).columnSize? key = some n) (hy : 0 ≤ y ∧ y < n)
    (hfree : o.held? key y.toNat = none) :
    (putVoxel o key y v height).voxels.Perm (v :: o.voxels) := by
  have hlt : y < (columnAfter o.columns[key]? y v height).size := by
    rw [Overlay.columnSize?, getElem?_putVoxel, if_pos rfl, Option.map_some,
      Option.some.injEq] at hsize
    omega
  -- take the column out, put the voxel into it, and join the other columns again
  have hafter := toList_alter_perm (m := o.columns) key
    (f := fun held => some (columnAfter held y v height)) rfl
  refine (hafter.flatMap_right fun c => c.2.voxels).trans ?_
  rw [List.flatMap_cons]
  refine ((voxels_columnAfter_perm hy.1 hlt hfree).append_right _).trans ?_
  exact (voxels_perm_of_column o key).symm.cons v

/-- A placement into an empty cell of its column adds its voxel to the overlay. -/
theorem voxels_place_perm {d : Draft} {p : Placement}
    (hfits : p.Fits d.overlay.size (d.place reg p).overlay.columnSize?)
    (hfree : ∀ key y, p.spot? d.overlay.size = some (key, y) →
      d.overlay.held? key y.toNat = none) :
    (d.place reg p).overlay.voxels.Perm ((p.shown? reg).toList ++ d.overlay.voxels) := by
  cases p with
  | biome x z tag => exact List.Perm.refl _
  | voxel x y z v isTurned height =>
    obtain ⟨n, hn, hy⟩ := hfits
    exact voxels_putVoxel_perm hn hy (hfree _ _ rfl)

/-- A placement elsewhere leaves an empty cell empty. -/
theorem held?_place_eq_none {d : Draft} {p : Placement} {key i : Nat}
    (hspot : p.spot? d.overlay.size ≠ some (key, (i : Int)))
    (hfree : d.overlay.held? key i = none) : (d.place reg p).overlay.held? key i = none := by
  cases hsize : (d.place reg p).overlay.columnSize? key with
  | none => exact Overlay.held?_eq_none_of_size fun n hn => by rw [hsize] at hn; cases hn
  | some n =>
    by_cases hi : i < n
    · rw [held?_place hsize hi, Placement.voxelAt?, if_neg hspot, hfree]
      rfl
    · refine Overlay.held?_eq_none_of_size fun m hm => ?_
      rw [hsize, Option.some.injEq] at hm
      omega

/-- **If every placement fits and no two go to one cell, the voxels of the overlay are those of
the placements.** -/
theorem voxels_foldl_perm {ps : List Placement} {d : Draft}
    (hfits : ∀ p ∈ ps, p.Fits d.overlay.size (ps.foldl (place reg) d).overlay.columnSize?)
    (hapart : (ps.filterMap (Placement.spot? d.overlay.size)).Nodup)
    (hfree : ∀ p ∈ ps, ∀ key y, p.spot? d.overlay.size = some (key, y) →
      d.overlay.held? key y.toNat = none) :
    (ps.foldl (place reg) d).overlay.voxels.Perm
      (ps.filterMap (Placement.shown? reg) ++ d.overlay.voxels) := by
  induction ps generalizing d with
  | nil => exact List.Perm.refl _
  | cons p rest ih =>
    rw [List.foldl_cons] at hfits ⊢
    -- what the induction needs: the rest fits, goes elsewhere, and finds its cells empty
    have hp := fits_place (hfits p List.mem_cons_self)
    have hrest : ∀ q ∈ rest, q.Fits (d.place reg p).overlay.size
        (rest.foldl (place reg) (d.place reg p)).overlay.columnSize? := by
      intro q hq
      rw [size_place]
      exact hfits q (List.mem_cons_of_mem p hq)
    have hother : ∀ q ∈ rest, ∀ s, q.spot? d.overlay.size = some s →
        p.spot? d.overlay.size ≠ some s := by
      intro q hq s hs hps
      rw [List.filterMap_cons, hps, List.nodup_cons] at hapart
      exact hapart.1 (List.mem_filterMap.mpr ⟨q, hq, hs⟩)
    have hapart' : (rest.filterMap (Placement.spot? (d.place reg p).overlay.size)).Nodup := by
      rw [size_place]
      exact hapart.sublist ((List.sublist_cons_self p rest).filterMap _)
    have hfree' : ∀ q ∈ rest, ∀ key y, q.spot? (d.place reg p).overlay.size = some (key, y) →
        (d.place reg p).overlay.held? key y.toNat = none := by
      intro q hq key y hspot
      have h0 : 0 ≤ y := Placement.nonneg_of_fits (hrest q hq) hspot
      rw [size_place] at hspot
      refine held?_place_eq_none ?_ (hfree q (List.mem_cons_of_mem p hq) key y hspot)
      rw [Int.toNat_of_nonneg h0]
      exact hother q hq _ hspot
    -- one placement adds one voxel, the rest adds its own
    have hstep := voxels_place_perm hp fun key y => hfree p List.mem_cons_self key y
    refine (ih hrest hapart' hfree').trans ((hstep.append_left _).trans ?_)
    rw [List.filterMap_cons]
    cases p.shown? reg with
    | none => exact List.Perm.refl _
    | some v => exact List.perm_middle

end Draft

end PlotGrid
