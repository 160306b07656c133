import PlotGrid.Area.Generate
import PlotGrid.Proofs.Chunk.Filling
import PlotGrid.Proofs.Overlay.Drafting

/-!
# Stamping an overlay

A pass copies a column of the overlay entry by entry and skips what belongs to the other pass or
lies outside of the buffer. What it lays over a column of the buffer is what it takes from the
overlay at each height.

- `HeightRange.fill_lays`, `HeightRange.put_lays`: patterns over ranges of heights.
- `Overlay.layer?`: what a pass takes from the overlay at a position and a height.
- `Overlay.stamp_lays`: what it lays over a column.
- `Overlay.stamps_iff`: when it writes anything.
-/

namespace PlotGrid

/-! ## Ranges of heights -/

/-- The heights of a frame. -/
def Frame.heights (F : Frame) : HeightRange :=
  ⟨F.bottom.y, F.top.y⟩

namespace HeightRange

variable {F : Frame} {x z : Nat}

theorem contains_iff {y : Int} : F.heights.contains y = true ↔ F.HasHeight y := by
  rw [contains, Bool.and_eq_true, decide_eq_true_iff, decide_eq_true_iff]
  rfl

/-- Of the heights of a list at most the one in question has the pattern. -/
theorem findSome?_heights (heights : List Int) (p : Pattern) (y : Int) :
    (heights.findSome? fun y' => if y' = y then some p else none) =
      if y ∈ heights then some p else none := by
  by_cases hy : y ∈ heights
  · rw [if_pos hy]
    refine findSome?_eq_some_of_unique hy (if_pos rfl) fun y' _ v' h => ?_
    split at h
    · exact (Option.some.inj h).symm
    · cases h
  · rw [if_neg hy]
    refine List.findSome?_eq_none_iff.mpr fun y' hy' => if_neg fun heq => hy ?_
    rw [← heq]
    exact hy'

/-- A column filled from one height to another. -/
theorem fill_lays (hF : F.Narrow) (hcol : F.HasColumn x z) (lo hi : Int) (p : Pattern) :
    Fill.Lays F True (F.heights.fill x z lo hi p) ()
      (F.blocks x z fun y => if lo ≤ y ∧ y ≤ hi then some p else none) := by
  have hloop : Fill.Lays F _ (F.heights.fill x z lo hi p) () _ := Fill.Lays.forM fun y hy => by
    have hspan := Coord.mem_span.mp hy
    simp only [Frame.heights] at hspan
    exact Fill.Lays.pattern hF hcol ⟨by omega, by omega⟩ p
  -- the loop stays within the frame, and nothing shows outside of it anyway
  have hcontent : F.blocks x z (fun y' => (Coord.span (max lo F.heights.least)
        (min hi F.heights.greatest)).reverse.findSome? fun y =>
          if y = y' then some p else none) =
      F.blocks x z fun y => if lo ≤ y ∧ y ≤ hi then some p else none := by
    refine Frame.blocks_congr ?_
    intro y hy
    obtain ⟨hlo, hhi⟩ := hy
    rw [findSome?_heights]
    refine ite_congr (propext ?_) (fun _ => rfl) fun _ => rfl
    rw [List.mem_reverse, Coord.mem_span]
    simp only [Frame.heights]
    omega
  rw [Frame.stack_blocks, hcontent] at hloop
  exact hloop.congr (by simp)

/-- A single voxel of a pattern. -/
theorem put_lays (hF : F.Narrow) (hcol : F.HasColumn x z) (y : Int) (p : Pattern) :
    Fill.Lays F True (F.heights.put x z y p) ()
      (F.blocks x z fun y' => if y = y' then some p else none) := by
  unfold put
  by_cases hy : F.HasHeight y
  · rw [if_pos (contains_iff.mpr hy)]
    exact Fill.Lays.pattern hF hcol hy p
  · have hnone : F.blocks x z (fun y' => if y = y' then some p else none) = .empty := by
      rw [← F.blocks_none x z]
      exact Frame.blocks_congr fun y' hy' => if_neg fun (heq : y = y') => hy (heq ▸ hy')
    rw [if_neg fun h => hy (contains_iff.mp h), hnone]
    exact Fill.Lays.pure ()

end HeightRange

/-! ## Stamping -/

namespace Overlay

/-- The heights of all columns are coordinates. -/
def Narrow (o : Overlay) : Prop :=
  ∀ key n, o.columnSize? key = some n → Coord.InRange n

/-- What one pass takes from the overlay at a position and an absolute height. -/
def layer? (o : Overlay) (entities : Bool) (x z y : Int) : Option Voxel :=
  (o.cell? x z (y - o.anchors.schemY)).filter fun v => v.isEntity == entities

/-- What one pass takes from one entry of a column. -/
def share? (o : Overlay) (entities : Bool) (cell : Option Voxel × Nat) (y : Int) : Option Voxel :=
  if o.anchors.schemY + cell.2 = y then cell.1.filter fun v => v.isEntity == entities else none

/-- The heights of what one pass takes from the overlay at a position are coordinates. -/
def CanStamp (o : Overlay) (entities : Bool) (x z : Int) : Prop :=
  ∀ i v, o.cell? x z i = some v → v.isEntity = entities → Coord.InRange (o.anchors.schemY + i)

/-- The height of an entry that one pass takes is a coordinate. -/
def CanWrite (o : Overlay) (entities : Bool) (cell : Option Voxel × Nat) : Prop :=
  ∀ v, cell.1 = some v → v.isEntity = entities → Coord.InRange (o.anchors.schemY + cell.2)

/-- An entry of a column that one pass writes to a frame. -/
def writes (o : Overlay) (F : Frame) (entities : Bool) (cell : Option Voxel × Nat) : Bool :=
  (cell.1.any fun v => v.isEntity == entities) && F.heights.contains (o.anchors.schemY + cell.2)

variable {o : Overlay} {F : Frame} {x z : Nat} {entities : Bool}

theorem stampCell_lays (hcol : F.HasColumn x z) (entities : Bool) (cell : Option Voxel × Nat)
    (hcell : Coord.InRange cell.2) :
    Fill.Lays F (o.CanWrite entities cell) (o.stampCell F.heights x z entities cell)
      (o.writes F entities cell) (F.column x z (o.share? entities cell) none) := by
  obtain ⟨entry, i⟩ := cell
  -- an entry that is not written lays nothing
  have hskip (hnone : ∀ y, F.HasHeight y → o.share? entities (entry, i) y = none) :
      F.column x z (o.share? entities (entry, i)) none = .empty :=
    (Frame.column_congr hnone).trans (F.column_none x z)
  cases entry with
  | none =>
    rw [hskip fun y _ => by simp [share?]]
    exact (Fill.Lays.pure false).congr (by simp [CanWrite])
  | some v =>
    unfold stampCell
    dsimp only
    by_cases hv : v.isEntity = entities
    · have hne : ¬ (v.isEntity != entities) = true := by simpa using hv
      have hcan : ((∃ y, Coord.add o.anchors.schemY (Coord.wrap i) = .ok y) ∧ True) ↔
          o.CanWrite entities (some v, i) := by
        rw [Coord.wrap_of_inRange hcell]
        simp [Coord.add_eq_ok_iff, CanWrite, hv]
      rw [if_neg hne]
      refine (Fill.Lays.lift_bind (Frame.onlyFaults_canStop (.add _ _)) fun y hy => ?_).congr hcan
      rw [Coord.wrap_of_inRange hcell] at hy
      obtain ⟨-, rfl⟩ := Coord.add_eq_ok_iff.mp hy
      have hwrites : o.writes F entities (some v, i) =
          F.heights.contains (o.anchors.schemY + i) := by
        simp [writes, hv]
      rw [hwrites]
      -- an entry of this pass is written if the frame has its height
      by_cases hin : F.heights.contains (o.anchors.schemY + i) = true
      · have hshare : o.share? entities (some v, i) =
            fun y => if o.anchors.schemY + i = y then some v else none := by
          funext y
          rw [share?, Option.filter_some, if_pos (beq_iff_eq.mpr hv)]
        rw [if_pos hin, hin, hshare]
        exact (Fill.Lays.voxel hcol (HeightRange.contains_iff.mp hin) v).bind_pure true
      · rw [if_neg hin, Bool.eq_false_iff.mpr hin, hskip]
        · exact Fill.Lays.pure false
        · intro y hy
          refine if_neg fun heq => hin ?_
          rw [heq]
          exact HeightRange.contains_iff.mpr hy
    · have hne : (v.isEntity != entities) = true := by simpa using hv
      have hwrites : o.writes F entities (some v, i) = false := by simp [writes, hv]
      have hshare (y : Int) : o.share? entities (some v, i) y = none := by
        rw [share?, Option.filter_some, if_neg fun h => hv (beq_iff_eq.mp h)]
        exact ite_self _
      rw [if_pos hne, hwrites, hskip fun y _ => hshare y]
      exact (Fill.Lays.pure false).congr (by simp [CanWrite, hv])

/-- The cells of a column that is there. -/
theorem cell?_eq_some_iff {column : OverlayColumn} {rx rz i : Int} {v : Voxel}
    (h : o.column? rx rz = some column) :
    o.cell? rx rz i = some v ↔ ∃ n : Nat, (n : Int) = i ∧ (some v, n) ∈ column.toList.zipIdx := by
  have hentry (n : Nat) : (some v, n) ∈ column.toList.zipIdx ↔ column[n]? = some (some v) := by
    rw [List.mk_mem_zipIdx_iff_getElem?, Array.getElem?_toList]
  have hheld (n : Nat) : o.held? (Cell.key o.size rx rz) n = column[n]?.join := by
    unfold column? at h
    rw [held?, h, Option.bind_some]
  unfold cell?
  split
  · rename_i hi
    rw [hheld, Option.join_eq_some_iff]
    constructor
    · intro hv
      exact ⟨i.toNat, Int.toNat_of_nonneg hi, (hentry _).mpr hv⟩
    · rintro ⟨n, rfl, hn⟩
      exact (hentry _).mp hn
  · rename_i hi
    constructor
    · intro hv
      cases hv
    · rintro ⟨n, rfl, -⟩
      exact absurd (Int.natCast_nonneg n) hi

/-- Without a column there are no cells. -/
theorem cell?_eq_none_of_column? {rx rz : Int} (h : o.column? rx rz = none) (i : Int) :
    o.cell? rx rz i = none := by
  unfold column? at h
  rw [cell?, held?, h]
  exact ite_self _

theorem layer?_eq_some_iff {rx rz y : Int} {v : Voxel} :
    o.layer? entities rx rz y = some v ↔
      o.cell? rx rz (y - o.anchors.schemY) = some v ∧ v.isEntity = entities := by
  rw [layer?, Option.filter_eq_some_iff, beq_iff_eq]

/-- One pass takes from a column what its entries for the pass show. -/
theorem layer?_eq_some_iff_share {column : OverlayColumn} {rx rz y : Int} {v : Voxel}
    (h : o.column? rx rz = some column) :
    o.layer? entities rx rz y = some v ↔
      ∃ cell ∈ column.toList.zipIdx, o.share? entities cell y = some v := by
  rw [layer?_eq_some_iff, cell?_eq_some_iff h]
  constructor
  · rintro ⟨⟨n, hn, hmem⟩, hv⟩
    refine ⟨(some v, n), hmem, ?_⟩
    rw [share?, if_pos (show o.anchors.schemY + (n : Int) = y by omega), Option.filter_eq_some_iff]
    exact ⟨rfl, beq_iff_eq.mpr hv⟩
  · rintro ⟨⟨entry, n⟩, hmem, hv⟩
    unfold share? at hv
    split at hv
    · rename_i hy
      obtain ⟨rfl, hentity⟩ := Option.filter_eq_some_iff.mp hv
      exact ⟨⟨n, by omega, hmem⟩, beq_iff_eq.mp hentity⟩
    · cases hv

/-- The heights of a column are coordinates iff those of its entries are. -/
theorem canStamp_iff {column : OverlayColumn} {rx rz : Int} (h : o.column? rx rz = some column) :
    o.CanStamp entities rx rz ↔ ∀ cell ∈ column.toList.zipIdx, o.CanWrite entities cell := by
  constructor
  · rintro hcan ⟨entry, n⟩ hmem v rfl hv
    exact hcan n v ((cell?_eq_some_iff h).mpr ⟨n, rfl, hmem⟩) hv
  · intro hcan i v hcell hv
    obtain ⟨n, rfl, hmem⟩ := (cell?_eq_some_iff h).mp hcell
    exact hcan (some v, n) hmem v rfl hv

/-- The entries of a column for one height show what one pass takes from it. -/
theorem findSome?_share {column : OverlayColumn} {rx rz : Int} (h : o.column? rx rz = some column)
    (y : Int) : (column.toList.zipIdx.reverse.findSome? fun cell => o.share? entities cell y) =
      o.layer? entities rx rz y := by
  cases hlayer : o.layer? entities rx rz y with
  | none =>
    refine List.findSome?_eq_none_iff.mpr fun cell hcell => ?_
    cases hshare : o.share? entities cell y with
    | none => rfl
    | some v =>
      have hv := (layer?_eq_some_iff_share h).mpr ⟨cell, List.mem_reverse.mp hcell, hshare⟩
      rw [hlayer] at hv
      cases hv
  | some v =>
    obtain ⟨cell, hcell, hshare⟩ := (layer?_eq_some_iff_share h).mp hlayer
    refine findSome?_eq_some_of_unique (List.mem_reverse.mpr hcell) hshare
      fun cell' hcell' v' hv' => ?_
    have hlayer' := (layer?_eq_some_iff_share h).mpr ⟨cell', List.mem_reverse.mp hcell', hv'⟩
    rw [hlayer] at hlayer'
    exact (Option.some.inj hlayer').symm

/-- Whether one pass writes anything to a column of a frame. -/
def stamps (o : Overlay) (F : Frame) (entities : Bool) (rx rz : Int) : Bool :=
  (o.column? rx rz).any fun column => column.toList.zipIdx.any (o.writes F entities)

/-- One pass writes to a column iff it takes a voxel at a height of the frame. -/
theorem stamps_iff {rx rz : Int} : o.stamps F entities rx rz = true ↔
    ∃ y v, F.HasHeight y ∧ o.layer? entities rx rz y = some v := by
  unfold stamps
  cases hcolumn : o.column? rx rz with
  | none =>
    constructor
    · intro h
      cases h
    · rintro ⟨y, v, -, hv⟩
      rw [layer?_eq_some_iff, cell?_eq_none_of_column? hcolumn] at hv
      cases hv.1
  | some column =>
    rw [Option.any_some, List.any_eq_true]
    constructor
    · rintro ⟨⟨entry, n⟩, hmem, hwrites⟩
      rw [writes, Bool.and_eq_true] at hwrites
      cases entry with
      | none => cases hwrites.1
      | some v =>
        refine ⟨_, v, HeightRange.contains_iff.mp hwrites.2,
          (layer?_eq_some_iff_share hcolumn).mpr ⟨_, hmem, ?_⟩⟩
        rw [share?, if_pos rfl, Option.filter_eq_some_iff]
        exact ⟨rfl, hwrites.1⟩
    · rintro ⟨y, v, hy, hv⟩
      obtain ⟨⟨entry, n⟩, hmem, hshare⟩ := (layer?_eq_some_iff_share hcolumn).mp hv
      refine ⟨_, hmem, ?_⟩
      unfold share? at hshare
      split at hshare
      · rename_i heq
        obtain ⟨rfl, hentity⟩ := Option.filter_eq_some_iff.mp hshare
        rw [writes, Bool.and_eq_true]
        exact ⟨hentity, HeightRange.contains_iff.mpr (heq ▸ hy)⟩
      · cases hshare

/-- **A pass lays over a column what it takes from it.** -/
theorem stamp_lays (ho : o.Narrow) {c : Column} (hcol : F.HasColumn c.x c.z) (entities : Bool) :
    Fill.Lays F (o.CanStamp entities c.rx c.rz) (o.stamp F.heights c entities)
      (o.stamps F entities c.rx c.rz) (F.column c.x c.z (o.layer? entities c.rx c.rz) none) := by
  unfold stamp stamps
  cases hcolumn : o.column? c.rx c.rz with
  | none =>
    have hlayer : o.layer? entities c.rx c.rz = fun _ => none := by
      funext y
      rw [layer?, cell?_eq_none_of_column? hcolumn]
      rfl
    have hcan : True ↔ o.CanStamp entities c.rx c.rz := by
      simp [CanStamp, cell?_eq_none_of_column? hcolumn]
    rw [hlayer, Frame.column_none]
    exact (Fill.Lays.pure false).congr hcan
  | some column =>
    have hsize : Coord.InRange column.size := by
      refine ho (Cell.key o.size c.rx c.rz) column.size ?_
      unfold column? at hcolumn
      rw [columnSize?, hcolumn]
      rfl
    -- indices are below a size that is a coordinate, so none of them is reduced
    have hindex (cell : Option Voxel × Nat) (hcell : cell ∈ column.toList.zipIdx) :
        Coord.InRange cell.2 := by
      have hlt := List.snd_lt_of_mem_zipIdx hcell
      rw [Array.length_toList] at hlt
      have hrange := Coord.inRange_iff.mp hsize
      exact Coord.inRange_iff.mpr ⟨by omega, by omega⟩
    have hloop := Fill.Lays.foldlM_or (fun cell hcell =>
      stampCell_lays (o := o) hcol entities cell (hindex cell hcell)) false
    have hlayer : (fun y => column.toList.zipIdx.reverse.findSome? fun cell =>
        o.share? entities cell y) = o.layer? entities c.rx c.rz :=
      funext fun y => findSome?_share hcolumn y
    rw [Frame.stack_column, Bool.or_false, hlayer] at hloop
    exact hloop.congr (canStamp_iff hcolumn).symm

end Overlay

end PlotGrid
