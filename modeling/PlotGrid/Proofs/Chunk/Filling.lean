import PlotGrid.Grid.Column
import PlotGrid.Proofs.Chunk.Writes
import PlotGrid.Proofs.Overflow

/-!
# What a computation lays over a buffer

The passes over a buffer do not read what they write. So each of them lays a fixed content over
whatever the buffer holds, and a sequence of them lays their contents over each other.

- `Content`, `Content.atop`, `Content.stack`: voxels and biomes by position, one layer over
  another, and a list of layers with the last one on top.
- `Frame`, `Buffer.HasFrame`: what stays the same in a buffer.
- `Frame.CanStop`: the overflows that a computation over a frame can stop at.
- `Fill.Lays`: a computation that gives a result and lays a content over the buffer if a condition
  holds, and stops at an overflow otherwise.
- `Fill.Lays.bind`, `Fill.Lays.forM`: sequences and loops.
-/

namespace PlotGrid

/-! ## Contents -/

/-- Voxels and biomes by position. -/
@[ext] structure Content where
  voxel : Nat → Int → Nat → Option Voxel
  biome : Nat → Int → Nat → Option BiomeTag

namespace Content

/-- Nothing at all. -/
def empty : Content :=
  ⟨fun _ _ _ => none, fun _ _ _ => none⟩

/-- One content with another one below it. -/
def atop (p q : Content) : Content where
  voxel x y z := (p.voxel x y z).or (q.voxel x y z)
  biome x y z := (p.biome x y z).or (q.biome x y z)

/-- Contents on top of each other, the last one uppermost. -/
def stack : List Content → Content
  | [] => empty
  | p :: rest => (stack rest).atop p

@[simp] theorem atop_empty (p : Content) : p.atop empty = p := by
  ext x y z v <;> simp [atop, empty]

@[simp] theorem empty_atop (p : Content) : empty.atop p = p := by
  ext x y z v <;> simp [atop, empty]

theorem atop_assoc (p q r : Content) : (p.atop q).atop r = p.atop (q.atop r) := by
  ext x y z v <;> simp [atop, Option.or_assoc]

theorem stack_eq_empty {l : List Content} (h : ∀ p ∈ l, p = empty) : stack l = empty := by
  induction l with
  | nil => rfl
  | cons p rest ih =>
    rw [stack, h p List.mem_cons_self, atop_empty, ih fun q hq => h q (List.mem_cons_of_mem p hq)]

section Stack

variable {α β : Type} (f : Content → Option β) {p : α → Content} {l : List α}

/-- Where no layer has a value the stack has none. -/
theorem map_stack_eq_none (hempty : f empty = none)
    (hatop : ∀ p q, f (p.atop q) = (f p).or (f q))
    (h : ∀ a ∈ l, f (p a) = none) : f (stack (l.map p)) = none := by
  induction l with
  | nil => exact hempty
  | cons a rest ih =>
    rw [List.map_cons, stack, hatop, h a List.mem_cons_self,
      ih fun b hb => h b (List.mem_cons_of_mem a hb)]
    rfl

/-- Where no other layer has a value the stack has that of the one layer. -/
theorem map_stack_eq (hempty : f empty = none)
    (hatop : ∀ p q, f (p.atop q) = (f p).or (f q)) {a : α} (ha : a ∈ l)
    (h : ∀ b ∈ l, b ≠ a → f (p b) = none) : f (stack (l.map p)) = f (p a) := by
  induction l with
  | nil => cases ha
  | cons b rest ih =>
    have hrest : ∀ c ∈ rest, c ≠ a → f (p c) = none := fun c hc =>
      h c (List.mem_cons_of_mem b hc)
    rw [List.map_cons, stack, hatop]
    -- the layer may come again in the rest, which then shows its value
    by_cases hin : a ∈ rest
    · rw [ih hin hrest]
      by_cases hb : b = a
      · rw [hb, Option.or_self]
      · rw [h b List.mem_cons_self hb, Option.or_none]
    · have hb : b = a := by
        rcases List.mem_cons.mp ha with heq | hmem
        · exact heq.symm
        · exact absurd hmem hin
      rw [map_stack_eq_none f hempty hatop fun c hc => hrest c hc fun heq => hin (heq ▸ hc), hb,
        Option.none_or]

end Stack

end Content

/-! ## Frames -/

/-- What stays the same in a buffer: its corners, its columns, and whether it keeps biomes. -/
structure Frame where
  bottom : BlockPos
  top : BlockPos
  width : Nat
  length : Nat
  tracks : Bool

namespace Frame

/-- A height of the frame. -/
def HasHeight (F : Frame) (y : Int) : Prop :=
  F.bottom.y ≤ y ∧ y ≤ F.top.y

instance (F : Frame) (y : Int) : Decidable (F.HasHeight y) :=
  inferInstanceAs (Decidable (_ ∧ _))

/-- The edges of the boxes of cells. -/
def dims (F : Frame) : Nat × Nat × Nat :=
  (F.width, F.length, (F.top.y - F.bottom.y + 1).toNat)

/-- A column of the frame. -/
def HasColumn (F : Frame) (x z : Nat) : Prop :=
  x < F.width ∧ z < F.length

/-- The numbers of columns along both axes are coordinates, and so are the absolute positions of
all columns. -/
structure Narrow (F : Frame) : Prop where
  width : Coord.InRange F.width
  length : Coord.InRange F.length
  absolute : ∀ x z, F.HasColumn x z →
    Coord.InRange (F.bottom.x + x) ∧ Coord.InRange (F.bottom.z + z)

theorem Narrow.inRange_place {F : Frame} (hF : F.Narrow) {x z : Nat} (hcol : F.HasColumn x z) :
    Coord.InRange x ∧ Coord.InRange z := by
  have hwidth := Coord.inRange_iff.mp hF.width
  have hlength := Coord.inRange_iff.mp hF.length
  obtain ⟨hx, hz⟩ := hcol
  exact ⟨Coord.inRange_iff.mpr ⟨by omega, by omega⟩, Coord.inRange_iff.mpr ⟨by omega, by omega⟩⟩

/-- There is no room for a list of all columns of the frame. -/
def IsVast (F : Frame) : Prop :=
  Count.room ≤ Column.bytes * (F.width * F.length)

/-- A fault that stops a computation over the frame: a number is out of its range, or the columns
are too many to be listed. -/
def CanStop (F : Frame) (fault : Fault) : Prop :=
  fault = .overflow ∨ fault = .capacity ∧ F.IsVast

theorem CanStop.isOverflow {F : Frame} {fault : Fault} (h : F.CanStop fault) : fault.IsOverflow :=
  h.imp id And.left

theorem onlyFaults_canStop {α : Type} {F : Frame} {r : Checked α} (h : OnlyOverflow r) :
    OnlyFaults F.CanStop r :=
  h.mono fun _ => .inl

/-- The voxel of a pattern in a cell of the frame. -/
def see (F : Frame) (p : Pattern) (x : Nat) (y : Int) (z : Nat) : Voxel :=
  p (F.bottom.x + x) y (F.bottom.z + z)

/-- A content of one column. -/
def column (F : Frame) (x z : Nat) (voxel : Int → Option Voxel) (biome : Option BiomeTag) :
    Content where
  voxel x' y z' := if x = x' ∧ z = z' ∧ F.HasHeight y then voxel y else none
  biome x' y z' := if x = x' ∧ z = z' ∧ F.HasHeight y ∧ F.tracks then biome else none

theorem column_atop_column (F : Frame) (x z : Nat) (p q : Int → Option Voxel)
    (t u : Option BiomeTag) :
    (F.column x z p t).atop (F.column x z q u) =
      F.column x z (fun y => (p y).or (q y)) (t.or u) := by
  ext x' y z' v
  · simp only [Content.atop, column]
    split <;> simp
  · simp only [Content.atop, column]
    split <;> simp

/-- Only the heights of the frame count. -/
theorem column_congr {F : Frame} {x z : Nat} {p q : Int → Option Voxel} {t : Option BiomeTag}
    (h : ∀ y, F.HasHeight y → p y = q y) : F.column x z p t = F.column x z q t := by
  refine Content.ext ?_ rfl
  funext x' y z'
  simp only [column]
  split
  · rename_i hin
    exact h y hin.2.2
  · rfl

theorem column_none (F : Frame) (x z : Nat) :
    F.column x z (fun _ => none) none = Content.empty := by
  ext x' y z' v <;> simp [column, Content.empty]

/-- Patterns by height in one column. -/
def blocks (F : Frame) (x z : Nat) (p : Int → Option Pattern) : Content :=
  F.column x z (fun y => (p y).map fun q => F.see q x y z) none

theorem blocks_atop_blocks (F : Frame) (x z : Nat) (p q : Int → Option Pattern) :
    (F.blocks x z p).atop (F.blocks x z q) = F.blocks x z fun y => (p y).or (q y) := by
  rw [blocks, blocks, column_atop_column]
  refine column_congr ?_
  intro y _
  rw [Option.map_or]

theorem blocks_none (F : Frame) (x z : Nat) : F.blocks x z (fun _ => none) = Content.empty :=
  F.column_none x z

/-- Only the heights of the frame count. -/
theorem blocks_congr {F : Frame} {x z : Nat} {p q : Int → Option Pattern}
    (h : ∀ y, F.HasHeight y → p y = q y) : F.blocks x z p = F.blocks x z q :=
  column_congr fun y hy => by rw [h y hy]

/-- A pattern at one height is the voxel that it shows there. -/
theorem blocks_single (F : Frame) (x z : Nat) (y : Int) (p : Pattern) :
    F.blocks x z (fun y' => if y = y' then some p else none) =
      F.column x z (fun y' => if y = y' then some (F.see p x y z) else none) none := by
  refine column_congr ?_
  intro y' _
  dsimp only
  by_cases heq : y = y'
  · subst heq
    rw [if_pos rfl, if_pos rfl]
    rfl
  · rw [if_neg heq, if_neg heq]
    rfl

/-- Contents of one column on top of each other. -/
theorem stack_column (F : Frame) (x z : Nat) {α : Type} (l : List α) (p : α → Int → Option Voxel) :
    Content.stack (l.map fun a => F.column x z (p a) none) =
      F.column x z (fun y => l.reverse.findSome? fun a => p a y) none := by
  induction l with
  | nil => exact (F.column_none x z).symm
  | cons a rest ih =>
    rw [List.map_cons, Content.stack, ih, column_atop_column]
    congr 1
    funext y
    rw [List.reverse_cons, List.findSome?_append]
    cases h : p a y <;> simp [h]

/-- Patterns of one column on top of each other. -/
theorem stack_blocks (F : Frame) (x z : Nat) {α : Type} (l : List α)
    (p : α → Int → Option Pattern) :
    Content.stack (l.map fun a => F.blocks x z (p a)) =
      F.blocks x z fun y => l.reverse.findSome? fun a => p a y := by
  simp only [blocks]
  rw [stack_column]
  refine column_congr ?_
  intro y _
  rw [List.map_findSome?]
  rfl

end Frame

namespace Buffer

/-- The content of a buffer. -/
def content (b : Buffer) : Content :=
  ⟨b.voxel?, b.biome?⟩

/-- A buffer within a frame. -/
structure HasFrame (b : Buffer) (F : Frame) : Prop where
  bottom : b.bottom = F.bottom
  top : b.top = F.top
  voxels : b.voxels.dims = F.dims
  biomes : b.biomes.map Cells.dims = if F.tracks then some F.dims else none

namespace HasFrame

variable {F : Frame} {b : Buffer} {x z : Nat} {y : Int}

/-- The frame tells whether a buffer keeps biomes. -/
theorem isSome_biomes (hb : b.HasFrame F) : b.biomes.isSome = F.tracks := by
  have hdims := congrArg Option.isSome hb.biomes
  rw [Option.isSome_map] at hdims
  rw [hdims]
  cases F.tracks <;> rfl

theorem hasHeight_iff (hb : b.HasFrame F) : b.HasHeight y ↔ F.HasHeight y := by
  rw [HasHeight, hb.bottom, hb.top]
  rfl

/-- The index of a height is within a box of cells. -/
theorem level_lt (hb : b.HasFrame F) {α : Type} {cells : Cells α} (hcells : cells.dims = F.dims)
    (hy : b.HasHeight y) : b.level y < cells.height := by
  have hheight : cells.height = (b.top.y - b.bottom.y + 1).toNat := by
    rw [hb.bottom, hb.top]
    exact congrArg (·.2.2) hcells
  obtain ⟨hlo, hhi⟩ := hy
  rw [hheight, level]
  omega

theorem accepts (hb : b.HasFrame F) (hcol : F.HasColumn x z) (hy : F.HasHeight y) :
    b.Accepts x y z := by
  have hy := hb.hasHeight_iff.mpr hy
  have hwidth : b.voxels.width = F.width := congrArg (·.1) hb.voxels
  have hlength : b.voxels.length = F.length := congrArg (·.2.1) hb.voxels
  exact ⟨hy, hwidth ▸ hcol.1, hb.level_lt hb.voxels hy, hlength ▸ hcol.2⟩

end HasFrame

variable {F : Frame} {b : Buffer} {x z : Nat} {y : Int}

/-- A write within the frame lays one voxel over the buffer. -/
theorem write_eq_ok (hb : b.HasFrame F) (hcol : F.HasColumn x z) (hy : F.HasHeight y) (v : Voxel) :
    ∃ b', b.write x y z v = (.ok (), b') ∧ b'.HasFrame F ∧
      b'.content = (F.column x z (fun y' => if y = y' then some v else none) none).atop
        b.content := by
  have haccepts := hb.accepts hcol hy
  refine ⟨(b.write x y z v).2, Prod.ext ((write_fst v).mpr haccepts) rfl, ?_, ?_⟩
  · rw [write_of_hasHeight haccepts.1]
    exact ⟨hb.bottom, hb.top, (Cells.dims_set ..).trans hb.voxels, hb.biomes⟩
  · refine Content.ext ?_ ?_
    · funext x' y' z'
      simp only [content, Content.atop, Frame.column, voxel?_write]
      -- the written cell shows the voxel, every other cell what the buffer holds
      by_cases hcell : x = x' ∧ y = y' ∧ z = z'
      · obtain ⟨rfl, rfl, rfl⟩ := hcell
        rw [if_pos ⟨haccepts, rfl, rfl, rfl⟩, if_pos ⟨rfl, rfl, hy⟩, if_pos rfl]
        rfl
      · rw [if_neg fun h => hcell h.2]
        split
        · rename_i hin
          rw [if_neg fun hy' => hcell ⟨hin.1, hy', hin.2.1⟩]
          rfl
        · rfl
    · funext x' y' z'
      simp only [content, Content.atop, Frame.column, biome?_write]
      split <;> rfl

/-- A pattern writes its voxel for the absolute position. -/
theorem writePattern_eq (hF : F.Narrow) (hb : b.HasFrame F) (hcol : F.HasColumn x z)
    (p : Pattern) : b.writePattern x y z p = b.write x y z (F.see p x y z) := by
  -- places and absolute positions are coordinates, so no conversion changes them
  obtain ⟨hplaceX, hplaceZ⟩ := hF.inRange_place hcol
  have hx : Coord.wrap x = x := Coord.wrap_of_inRange hplaceX
  have hz : Coord.wrap z = z := Coord.wrap_of_inRange hplaceZ
  obtain ⟨habsX, habsZ⟩ := hF.absolute x z hcol
  rw [Buffer.writePattern, hx, hz, hb.bottom, Coord.add_eq_ok_iff.mpr ⟨habsX, rfl⟩,
    Coord.add_eq_ok_iff.mpr ⟨habsZ, rfl⟩]
  rfl

/-- A write of a column's biome lays it over the buffer if the buffer keeps biomes. -/
theorem writeBiomeColumn_eq_ok (hb : b.HasFrame F) (hcol : F.HasColumn x z) (tag : BiomeTag) :
    ∃ b', b.writeBiomeColumn x z tag = (.ok F.tracks, b') ∧ b'.HasFrame F ∧
      b'.content = (F.column x z (fun _ => none) (some tag)).atop b.content := by
  have hsome := hb.isSome_biomes
  cases hbiomes : b.biomes with
  | none =>
    have htracks : F.tracks = false := by
      rw [← hsome, hbiomes]
      rfl
    -- a frame without biomes does not show the biome either
    refine ⟨b, by rw [writeBiomeColumn_of_none hbiomes, htracks], hb, ?_⟩
    refine Content.ext ?_ ?_ <;> funext x' y' z' <;>
      simp [content, Content.atop, Frame.column, htracks]
  | some cells =>
    have htracks : F.tracks = true := by
      rw [← hsome, hbiomes]
      rfl
    have hframe := hb.biomes
    rw [hbiomes, htracks, if_pos rfl] at hframe
    have hdims := Option.some.inj hframe
    have hin : x < cells.width ∧ z < cells.length := by
      have hwidth : cells.width = F.width := congrArg (·.1) hdims
      have hlength : cells.length = F.length := congrArg (·.2.1) hdims
      rw [hwidth, hlength]
      exact hcol
    have hwrite := writeBiomeColumn_of_some hbiomes hin tag
    refine ⟨(b.writeBiomeColumn x z tag).2, by rw [hwrite, htracks], ?_, ?_⟩
    · rw [hwrite]
      refine ⟨hb.bottom, hb.top, hb.voxels, ?_⟩
      rw [htracks]
      exact congrArg some ((Cells.dims_setColumn ..).trans hdims)
    · refine Content.ext ?_ ?_
      · funext x' y' z'
        simp only [content, Content.atop, Frame.column, voxel?_writeBiomeColumn]
        split <;> rfl
      · funext x' y' z'
        simp only [content, Content.atop, Frame.column, biome?_writeBiomeColumn hbiomes hin,
          htracks, and_true]
        by_cases hcell : x = x' ∧ z = z' ∧ F.HasHeight y'
        · have hy' := hb.hasHeight_iff.mpr hcell.2.2
          rw [if_pos hcell, if_pos ⟨⟨hy', hb.level_lt hdims hy'⟩, hcell.1, hcell.2.1⟩]
          rfl
        · rw [if_neg hcell,
            if_neg fun h => hcell ⟨h.2.1, h.2.2, hb.hasHeight_iff.mp h.1.1⟩]
          rfl

/-- The frame of a buffer. -/
def frame (b : Buffer) : Frame :=
  ⟨b.bottom, b.top, b.width, b.length, b.tracksBiomes⟩

theorem inRange_of_extent {lo hi : Int} {n : Nat} (h : extent lo hi = .ok n) :
    Coord.InRange n := by
  obtain ⟨between, -, h⟩ := Checked.bind_eq_ok_iff.mp h
  obtain ⟨count, hcount, h⟩ := Checked.bind_eq_ok_iff.mp h
  obtain ⟨hrange, rfl⟩ := Coord.add_eq_ok_iff.mp hcount
  have h := Except.ok.inj h
  have hrange := Coord.inRange_iff.mp hrange
  exact Coord.inRange_iff.mpr ⟨by omega, by omega⟩

theorem eq_of_extent {lo hi : Int} {n : Nat} (h : extent lo hi = .ok n) :
    n = (hi - lo + 1).toNat := by
  obtain ⟨between, hbetween, h⟩ := Checked.bind_eq_ok_iff.mp h
  obtain ⟨count, hcount, h⟩ := Checked.bind_eq_ok_iff.mp h
  obtain ⟨-, rfl⟩ := Coord.sub_eq_ok_iff.mp hbetween
  obtain ⟨-, rfl⟩ := Coord.add_eq_ok_iff.mp hcount
  exact (Except.ok.inj h).symm

end Buffer

/-- The horizontal position of a corner is a pair of coordinates. -/
def BlockPos.InRange (p : BlockPos) : Prop :=
  Coord.InRange p.x ∧ Coord.InRange p.z

instance (p : BlockPos) : Decidable p.InRange :=
  inferInstanceAs (Decidable (_ ∧ _))

namespace Buffer

/-- Positions between two coordinates are coordinates. -/
theorem inRange_of_lt_extent {lo hi : Int} {n i : Nat} (hlo : Coord.InRange lo)
    (hhi : Coord.InRange hi) (h : extent lo hi = .ok n) (hi' : i < n) :
    Coord.InRange (lo + i) := by
  rw [eq_of_extent h] at hi'
  have hlo := Coord.inRange_iff.mp hlo
  have hhi := Coord.inRange_iff.mp hhi
  exact Coord.inRange_iff.mpr ⟨by omega, by omega⟩

/-- A buffer that nothing was written to. -/
structure Fresh (b : Buffer) : Prop where
  frame : b.HasFrame b.frame
  narrow : b.frame.Narrow
  content : b.content = .empty

theorem fresh_of_new? {bottom top : BlockPos} {track : Bool} {b : Buffer}
    (hbottom : bottom.InRange) (htop : top.InRange) (h : new? bottom top track = .ok b) :
    b.Fresh := by
  rw [new?] at h
  split at h
  · cases h
  · obtain ⟨width, hwidth, h⟩ := Checked.bind_eq_ok_iff.mp h
    obtain ⟨length, hlength, h⟩ := Checked.bind_eq_ok_iff.mp h
    obtain ⟨height, hheight, h⟩ := Checked.bind_eq_ok_iff.mp h
    have h := Except.ok.inj h
    subst h
    have hdims {α : Type} : (Cells.empty width length height : Cells α).dims =
        (width, length, (top.y - bottom.y + 1).toNat) := by
      rw [Cells.dims_empty, eq_of_extent hheight]
    refine ⟨⟨rfl, rfl, hdims, ?_⟩, ⟨inRange_of_extent hwidth, inRange_of_extent hlength, ?_⟩, ?_⟩
    · cases track
      · rfl
      · exact congrArg some hdims
    · exact fun x z hcol => ⟨inRange_of_lt_extent hbottom.1 htop.1 hwidth hcol.1,
        inRange_of_lt_extent hbottom.2 htop.2 hlength hcol.2⟩
    · refine Content.ext ?_ ?_
      · funext x y z
        show (if _ then Cells.get? _ x _ z else none) = none
        rw [Cells.get?_empty]
        exact ite_self _
      · funext x y z
        show (if _ then Option.bind _ _ else none) = none
        cases track
        · exact ite_self _
        · rw [if_pos rfl, Option.bind_some, Cells.get?_empty]
          exact ite_self _

/-- The columns of a new buffer reach from one corner to the other. -/
theorem new?_eq_ok {bottom top : BlockPos} {track : Bool} {b : Buffer}
    (h : new? bottom top track = .ok b) :
    b.bottom = bottom ∧ b.top = top ∧ (b.width : Int) = top.x - bottom.x + 1 ∧
      (b.length : Int) = top.z - bottom.z + 1 := by
  rw [new?] at h
  split at h
  · cases h
  · rename_i horder
    obtain ⟨width, hwidth, h⟩ := Checked.bind_eq_ok_iff.mp h
    obtain ⟨length, hlength, h⟩ := Checked.bind_eq_ok_iff.mp h
    obtain ⟨height, hheight, h⟩ := Checked.bind_eq_ok_iff.mp h
    have h := Except.ok.inj h
    subst h
    have hwidth := eq_of_extent hwidth
    have hlength := eq_of_extent hlength
    refine ⟨rfl, rfl, ?_, ?_⟩
    · show (width : Int) = _
      omega
    · show (length : Int) = _
      omega

/-- The bounds of a chunk along one axis are coordinates. -/
theorem inRange_of_chunkBounds {c : Int} {bounds : Int × Int} (h : chunkBounds c = .ok bounds) :
    Coord.InRange bounds.1 ∧ Coord.InRange bounds.2 := by
  obtain ⟨least, hleast, h⟩ := Checked.bind_eq_ok_iff.mp h
  obtain ⟨past, -, h⟩ := Checked.bind_eq_ok_iff.mp h
  obtain ⟨greatest, hgreatest, h⟩ := Checked.bind_eq_ok_iff.mp h
  obtain ⟨hlo, rfl⟩ := Coord.narrow_eq_ok_iff.mp hleast
  obtain ⟨hhi, rfl⟩ := Coord.sub_eq_ok_iff.mp hgreatest
  rw [← Except.ok.inj h]
  exact ⟨hlo, hhi⟩

/-- The buffer of a chunk is a new buffer between two corners. -/
theorem forChunk?_eq_ok {cx cz minY maxY : Int} {track : Bool} {b : Buffer}
    (h : forChunk? cx cz minY maxY track = .ok b) :
    ∃ bottom top : BlockPos, bottom.InRange ∧ top.InRange ∧ new? bottom top track = .ok b := by
  obtain ⟨boundsX, hX, h⟩ := Checked.bind_eq_ok_iff.mp h
  obtain ⟨boundsZ, hZ, h⟩ := Checked.bind_eq_ok_iff.mp h
  have hrangeX := inRange_of_chunkBounds hX
  have hrangeZ := inRange_of_chunkBounds hZ
  exact ⟨⟨boundsX.1, minY, boundsZ.1⟩, ⟨boundsX.2, maxY, boundsZ.2⟩, ⟨hrangeX.1, hrangeZ.1⟩,
    ⟨hrangeX.2, hrangeZ.2⟩, h⟩

end Buffer

/-! ## Computations -/

namespace Fill

variable {α β : Type} {F : Frame}

theorem run_lift (r : Checked α) (b : Buffer) : (lift r).run b = (r, b) :=
  rfl

theorem run_inspect (read : Buffer → α) (b : Buffer) :
    (inspect read).run b = (.ok (read b), b) :=
  rfl

/-- A computation that, on every buffer of a frame, gives a result and lays a content over the
buffer if a condition holds, and stops at an overflow otherwise. -/
def Lays (F : Frame) (P : Prop) (m : Fill α) (a : α) (p : Content) : Prop :=
  ∀ b, b.HasFrame F →
    (P ∧ ∃ b', m.run b = (.ok a, b') ∧ b'.HasFrame F ∧ b'.content = p.atop b.content) ∨
      (¬ P ∧ ∃ fault b', m.run b = (.error fault, b') ∧ F.CanStop fault)

namespace Lays

variable {P Q : Prop}

theorem congr {m : Fill α} {a : α} {p : Content} (hm : Lays F P m a p) (h : P ↔ Q) :
    Lays F Q m a p :=
  propext h ▸ hm

theorem pure (a : α) : Lays F True (Pure.pure a) a .empty := by
  intro b hb
  exact .inl ⟨trivial, b, rfl, hb, (Content.empty_atop _).symm⟩

theorem bind {m : Fill α} {f : α → Fill β} {a : α} {c : β} {p q : Content} (hm : Lays F P m a p)
    (hf : Lays F Q (f a) c q) : Lays F (P ∧ Q) (m >>= f) c (q.atop p) := by
  intro b hb
  rw [Checked.run_bind]
  -- the second computation starts from what the first one left, within the same frame
  rcases hm b hb with ⟨hP, b', hrun, hb', hcontent⟩ | ⟨hP, fault, b', hrun, hstop⟩
  · rw [hrun]
    rcases hf b' hb' with ⟨hQ, b'', hrun', hb'', hcontent'⟩ | ⟨hQ, hstop⟩
    · refine .inl ⟨⟨hP, hQ⟩, b'', hrun', hb'', ?_⟩
      rw [hcontent', hcontent, Content.atop_assoc]
    · exact .inr ⟨fun h => hQ h.2, hstop⟩
  · rw [hrun]
    exact .inr ⟨fun h => hP h.1, fault, b', rfl, hstop⟩

/-- A computation followed by one that writes nothing. -/
theorem bind_pure {m : Fill α} {a : α} {p : Content} (hm : Lays F P m a p) (c : β) :
    Lays F P (m >>= fun _ => Pure.pure c) c p := by
  have hbind := hm.bind (f := fun _ => Pure.pure c) (pure c)
  rw [Content.empty_atop] at hbind
  exact hbind.congr (iff_of_eq (and_true P))

/-- A computed value that a computation goes on with. -/
theorem lift_bind {r : Checked α} {f : α → Fill β} {c : β} {p : Content}
    (hr : OnlyFaults F.CanStop r)
    (hf : ∀ a, r = .ok a → Lays F P (f a) c p) :
    Lays F ((∃ a, r = .ok a) ∧ P) (lift r >>= f) c p := by
  intro b hb
  rw [Checked.run_bind, run_lift]
  cases r with
  | error fault =>
    refine .inr ⟨?_, fault, b, rfl, hr fault rfl⟩
    rintro ⟨⟨a, ha⟩, -⟩
    cases ha
  | ok a =>
    rcases hf a rfl b hb with ⟨hP, hrun⟩ | ⟨hP, hrun⟩
    · exact .inl ⟨⟨⟨a, rfl⟩, hP⟩, hrun⟩
    · exact .inr ⟨fun h => hP h.2, hrun⟩

/-- A value read from the buffer that all buffers of the frame share. -/
theorem inspect_bind {read : Buffer → α} {f : α → Fill β} {a : α} {c : β} {p : Content}
    (hread : ∀ b : Buffer, b.HasFrame F → read b = a) (hf : Lays F P (f a) c p) :
    Lays F P (inspect read >>= f) c p := by
  intro b hb
  rw [Checked.run_bind, run_inspect, hread b hb]
  exact hf b hb

variable {x z : Nat} {y : Int}

theorem voxel (hcol : F.HasColumn x z) (hy : F.HasHeight y) (v : Voxel) :
    Lays F True (Fill.voxel x y z v) ()
      (F.column x z (fun y' => if y = y' then some v else none) none) := by
  intro b hb
  exact .inl ⟨trivial, Buffer.write_eq_ok hb hcol hy v⟩

theorem biomeColumn (hcol : F.HasColumn x z) (tag : BiomeTag) :
    Lays F True (Fill.biomeColumn x z tag) F.tracks
      (F.column x z (fun _ => none) (some tag)) := by
  intro b hb
  exact .inl ⟨trivial, Buffer.writeBiomeColumn_eq_ok hb hcol tag⟩

/-- A pattern shows its voxel for the absolute position. -/
theorem pattern (hF : F.Narrow) (hcol : F.HasColumn x z) (hy : F.HasHeight y) (p : Pattern) :
    Lays F True (Fill.pattern x y z p) ()
      (F.blocks x z fun y' => if y = y' then some p else none) := by
  intro b hb
  have hrun : (Fill.pattern x y z p).run b = b.write x y z (F.see p x y z) :=
    Buffer.writePattern_eq hF hb hcol p
  rw [hrun, F.blocks_single]
  exact .inl ⟨trivial, Buffer.write_eq_ok hb hcol hy _⟩

/-- A loop lays the contents of its steps on top of each other. -/
theorem forM {l : List α} {f : α → Fill Unit} {P : α → Prop} {p : α → Content}
    (h : ∀ a ∈ l, Lays F (P a) (f a) () (p a)) :
    Lays F (∀ a ∈ l, P a) (l.forM f) () (.stack (l.map p)) := by
  induction l with
  | nil => exact (pure ()).congr (by simp)
  | cons a rest ih =>
    -- the first step lies below the others
    have hrest := ih fun b hb => h b (List.mem_cons_of_mem a hb)
    have hbind := (h a List.mem_cons_self).bind (f := fun _ => rest.forM f) hrest
    exact hbind.congr List.forall_mem_cons.symm

/-- A loop that tells whether any of its steps did something. -/
theorem foldlM_or {l : List α} {f : α → Fill Bool} {P : α → Prop} {did : α → Bool}
    {p : α → Content} (h : ∀ a ∈ l, Lays F (P a) (f a) (did a) (p a)) (before : Bool) :
    Lays F (∀ a ∈ l, P a) (l.foldlM (fun wrote a => do return (← f a) || wrote) before)
      (l.any did || before) (.stack (l.map p)) := by
  induction l generalizing before with
  | nil => exact (pure before).congr (by simp)
  | cons a rest ih =>
    -- one step, with the flag of the steps before it
    have hstep : Lays F (P a) (do return (← f a) || before) (did a || before) (p a) := by
      have hbind := bind (f := fun d => Pure.pure (d || before)) (h a List.mem_cons_self)
        (pure (did a || before))
      rw [Content.empty_atop] at hbind
      exact hbind.congr (iff_of_eq (and_true (P a)))
    have hrest := ih (fun b hb => h b (List.mem_cons_of_mem a hb)) (did a || before)
    rw [List.any_cons, Bool.or_comm (did a), Bool.or_assoc]
    have hbind := bind (f := rest.foldlM fun wrote a => do return (← f a) || wrote) hstep hrest
    exact hbind.congr List.forall_mem_cons.symm

/-- A computation over a fresh buffer stops at an overflow iff its condition does not hold. -/
theorem not_overflows_exec_iff {m : Fill α} {a : α} {p : Content} {b : Buffer} (hb : b.Fresh)
    (hm : Lays b.frame P m a p) : ¬ Overflows (m.exec b).1 ↔ P := by
  rcases hm b hb.frame with ⟨hP, b', hrun, -, -⟩ | ⟨hP, fault, b', hrun, hstop⟩
  · rw [exec, hrun]
    exact iff_of_true (not_overflows_ok a) hP
  · rw [exec, hrun]
    exact iff_of_false (fun h => h ⟨fault, rfl, hstop.isOverflow⟩) hP

/-- A computation over a fresh buffer that does not overflow leaves its own content. -/
theorem exists_exec_eq {m : Fill α} {a : α} {p : Content} {b : Buffer} (hb : b.Fresh)
    (hm : Lays b.frame P m a p) (hP : P) :
    ∃ b', m.exec b = (.ok a, b') ∧ b'.content = p := by
  rcases hm b hb.frame with ⟨-, b', hrun, -, hcontent⟩ | ⟨hnot, -⟩
  · rw [hb.content, Content.atop_empty] at hcontent
    exact ⟨b', hrun, hcontent⟩
  · exact absurd hP hnot

end Lays

end Fill

end PlotGrid
