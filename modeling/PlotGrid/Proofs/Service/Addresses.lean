import PlotGrid.CommandLine.Program
import PlotGrid.Proofs.Area.Accepted
import PlotGrid.Proofs.Chunk.History
import PlotGrid.Proofs.Service.Answers

/-!
# Addresses of block columns

A block column lies in the chunk of its shifted coordinates. The upper bound of a chunk is found
from the coordinate just past it, so the last chunk along an axis has no buffer, and the columns in
it cannot be had by any request.

- `Buffer.chunkBounds_eq`, `Buffer.chunkBounds_eq_error`: the chunks with bounds.
- `Buffer.Addresses`, `Buffer.exists_addresses`: a buffer with the column in its place.
- `CommandLine.columnLines_eq_ok`, `CommandLine.columnLines_eq_error`: the lines about a column.
- `block_columns_are_addressable_iff`: the columns that can be had.
-/

namespace PlotGrid

/-! ## Bounds of chunks -/

namespace Buffer

variable {c cx cz lo hi minY maxY : Int} {track : Bool}

theorem chunkBounds_eq (hlo : -134217728 ≤ c) (hhi : c ≤ 134217726) :
    chunkBounds c = .ok (16 * c, 16 * c + 15) := by
  have hleast : Coord.mul c chunkEdge = .ok (16 * c) :=
    Coord.narrow_eq_ok_iff.mpr ⟨Coord.inRange_iff.mpr (by simp only [chunkEdge]; omega), by
      simp only [chunkEdge]; omega⟩
  have hpast : Coord.add (16 * c) chunkEdge = .ok (16 * c + 16) :=
    Coord.add_eq_ok_iff.mpr ⟨Coord.inRange_iff.mpr (by simp only [chunkEdge]; omega), rfl⟩
  have hgreatest : Coord.sub (16 * c + 16) 1 = .ok (16 * c + 15) :=
    Coord.sub_eq_ok_iff.mpr ⟨Coord.inRange_iff.mpr (by omega), by omega⟩
  rw [chunkBounds, hleast]
  show (do let past ← Coord.add (16 * c) chunkEdge; _) = _
  rw [hpast]
  show (do let greatest ← Coord.sub (16 * c + 16) 1; _) = _
  rw [hgreatest]
  rfl

/-- From the last chunk on the coordinate past a chunk overflows. -/
theorem chunkBounds_eq_error (h : 134217727 ≤ c) : chunkBounds c = .error .overflow := by
  rw [chunkBounds]
  -- the first block of the last chunk is a coordinate, those of the chunks after it are not
  by_cases hleast : Coord.InRange (c * chunkEdge)
  · rw [Coord.mul, Coord.narrow_of_inRange hleast]
    have hpast : Coord.add (c * chunkEdge) chunkEdge = .error .overflow := by
      refine Coord.narrow_eq_error_iff.mpr ⟨?_, rfl⟩
      rw [Coord.inRange_iff]
      simp only [chunkEdge]
      omega
    show (do let past ← Coord.add (c * chunkEdge) chunkEdge; _) = _
    rw [hpast]
    rfl
  · rw [Coord.mul, Coord.narrow_eq_error_iff.mpr ⟨hleast, rfl⟩]
    rfl

theorem extent_eq_ok (hle : lo ≤ hi) (hrange : Coord.InRange (hi - lo + 1)) :
    extent lo hi = .ok (hi - lo + 1).toNat := by
  have hbounds := Coord.inRange_iff.mp hrange
  have hbetween : Coord.sub hi lo = .ok (hi - lo) :=
    Coord.sub_eq_ok_iff.mpr ⟨Coord.inRange_iff.mpr (by omega), rfl⟩
  rw [extent, hbetween]
  show (do let count ← Coord.add (hi - lo) 1; _) = _
  rw [Coord.add, Coord.narrow_of_inRange hrange]
  rfl

/-- Corners in order have a buffer between them if its edges are coordinates. -/
theorem exists_new?_eq_ok {bottom top : BlockPos} (hx : bottom.x ≤ top.x) (hy : bottom.y ≤ top.y)
    (hz : bottom.z ≤ top.z) (hwidth : Coord.InRange (top.x - bottom.x + 1))
    (hlength : Coord.InRange (top.z - bottom.z + 1))
    (hheight : Coord.InRange (top.y - bottom.y + 1)) : ∃ b, new? bottom top track = .ok b := by
  rw [new?, if_neg (by omega), extent_eq_ok hx hwidth, extent_eq_ok hz hlength,
    extent_eq_ok hy hheight]
  exact ⟨_, rfl⟩

theorem forChunk?_eq_error (h : 134217727 ≤ cx ∨ 134217727 ≤ cz) (hcx : -134217728 ≤ cx) :
    forChunk? cx cz minY maxY track = .error .overflow := by
  rw [forChunk?]
  by_cases hlast : 134217727 ≤ cx
  · rw [chunkBounds_eq_error hlast]
    rfl
  · rw [chunkBounds_eq hcx (by omega), chunkBounds_eq_error (h.resolve_left hlast)]
    rfl

/-! ## The buffer of a column -/

/-- The buffer is the chunk around the block column `(x, z)` over the heights of a world, and the
column is in its place there. -/
structure Addresses (b : Buffer) (world : World) (x z : Int) : Prop where
  bottom : b.bottom = ⟨16 * (x / 16), world.minHeight, 16 * (z / 16)⟩
  top : b.top = ⟨16 * (x / 16) + 15, world.maxHeight, 16 * (z / 16) + 15⟩
  edges : b.width = 16 ∧ b.length = 16
  /-- The absolute position of the cell is that of the column. -/
  position : b.bottom.x + (x % 16).toNat = x ∧ b.bottom.z + (z % 16).toNat = z
  /-- The cell takes voxels at exactly the heights of the world. -/
  accepts : ∀ y, b.Accepts (x % 16).toNat y (z % 16).toNat ↔
    world.minHeight ≤ y ∧ y ≤ world.maxHeight
  /-- A pattern is asked about the column. -/
  pattern : ∀ y p, b.writePattern (x % 16).toNat y (z % 16).toNat p =
    b.write (x % 16).toNat y (z % 16).toNat (p x y z)

theorem Fresh.addresses {b : Buffer} {world : World} {x z : Int} (hb : b.Fresh)
    (hbottom : b.bottom = ⟨16 * (x / 16), world.minHeight, 16 * (z / 16)⟩)
    (htop : b.top = ⟨16 * (x / 16) + 15, world.maxHeight, 16 * (z / 16) + 15⟩)
    (hwidth : b.width = 16) (hlength : b.length = 16) : b.Addresses world x z := by
  have hx : b.bottom.x + (x % 16).toNat = x := by
    rw [hbottom]
    dsimp only
    omega
  have hz : b.bottom.z + (z % 16).toNat = z := by
    rw [hbottom]
    dsimp only
    omega
  have hcol : b.frame.HasColumn (x % 16).toNat (z % 16).toNat := by
    show (x % 16).toNat < b.width ∧ (z % 16).toNat < b.length
    omega
  exact {
    bottom := hbottom
    top := htop
    edges := ⟨hwidth, hlength⟩
    position := ⟨hx, hz⟩
    accepts := by
      intro y
      rw [hb.frame.accepts_iff]
      show _ ∧ b.bottom.y ≤ y ∧ y ≤ b.top.y ↔ _
      rw [hbottom, htop]
      exact and_iff_right hcol
    pattern := by
      intro y p
      rw [writePattern_eq hb.narrow hb.frame hcol]
      show b.write _ y _ (p (b.bottom.x + (x % 16).toNat) y (b.bottom.z + (z % 16).toNat)) = _
      rw [hx, hz] }

/-- **Outside of the last chunks every column has a buffer.** -/
theorem exists_addresses {world : World} {x z : Int} (hx : Coord.InRange x) (hz : Coord.InRange z)
    (hx' : x < 2147483632) (hz' : z < 2147483632) (hy : world.minHeight ≤ world.maxHeight)
    (hheight : Coord.InRange (world.maxHeight - world.minHeight + 1)) (track : Bool) :
    ∃ b, forChunk? (x / 16) (z / 16) world.minHeight world.maxHeight track = .ok b ∧
      b.Addresses world x z := by
  rw [Coord.inRange_iff] at hx hz
  let bottom : BlockPos := ⟨16 * (x / 16), world.minHeight, 16 * (z / 16)⟩
  let top : BlockPos := ⟨16 * (x / 16) + 15, world.maxHeight, 16 * (z / 16) + 15⟩
  have hedge (n : Int) : Coord.InRange (16 * n + 15 - 16 * n + 1) :=
    Coord.inRange_iff.mpr (by omega)
  obtain ⟨b, hnew⟩ : ∃ b, new? bottom top track = .ok b :=
    exists_new?_eq_ok (by simp only [bottom, top]; omega) hy (by simp only [bottom, top]; omega)
      (hedge (x / 16)) (hedge (z / 16)) hheight
  have hchunk : forChunk? (x / 16) (z / 16) world.minHeight world.maxHeight track = .ok b := by
    rw [forChunk?, chunkBounds_eq (by omega) (by omega), chunkBounds_eq (by omega) (by omega)]
    exact hnew
  obtain ⟨hbottom, htop, hwidth, hlength⟩ := new?_eq_ok hnew
  obtain ⟨_, _, hrange, hrange', hnew'⟩ := forChunk?_eq_ok hchunk
  simp only [bottom, top] at hwidth hlength
  exact ⟨b, hchunk, (fresh_of_new? hrange hrange' hnew').addresses hbottom htop (by omega)
    (by omega)⟩

end Buffer

/-! ## The lines about a column -/

namespace CommandLine

variable {l : Loaded} {world : World} {x z : Int} {a : Area} {b b' : Buffer} {f : Fault}

/-- The lines about a column show the two passes for its chunk. -/
theorem columnLines_eq_ok (ha : l.atlas.forChunk? world.name (x / 16) (z / 16) = some a)
    (hb : Buffer.forChunk? (x / 16) (z / 16) world.minHeight world.maxHeight true = .ok b)
    (hb' : Buffer.forChunk? (x / 16) (z / 16) world.minHeight world.maxHeight false = .ok b') :
    (columnLines l world x z).exec.1 =
      let first := (a.generate.exec b).2
      .ok ((Coord.span first.bottom.y first.top.y).reverse.filterMap
        (voxelLine? l.registry first (Service.written? (a.populate.exec b'))
          (x % 16).toNat (z % 16).toNat)) := by
  have hfirst := Service.yields_generate (s := { atlas := l.atlas }) rfl ha hb
  have hsecond := Service.yields_populate (s := { atlas := l.atlas }) ha hb'
  refine Logged.Yields.exec_eq (hfirst.bind ?_)
  exact hsecond.bind (.ok _)

/-- A column whose chunk has no buffer stops the command. -/
theorem columnLines_eq_error (ha : l.atlas.forChunk? world.name (x / 16) (z / 16) = some a)
    (hb : Buffer.forChunk? (x / 16) (z / 16) world.minHeight world.maxHeight true = .error f) :
    (columnLines l world x z).exec.1 = .error f := by
  have hfirst := Service.yields_generate_error (s := { atlas := l.atlas }) ha hb
  exact (hfirst.bind_error _).exec_eq

end CommandLine

/-! ## All columns -/

/-- A block column of a world can be had: as a cell of a buffer, by the first pass, and on the
command line. -/
structure World.Addressable (world : World) (x z : Int) : Prop where
  buffer : ∀ track, ∃ b,
    Buffer.forChunk? (x / 16) (z / 16) world.minHeight world.maxHeight track = .ok b ∧
      b.Addresses world x z
  /-- The generator of the owner is given the buffer with the column. -/
  generated : ∀ (s : Service) (a : Area), s.hooks = .none →
    s.atlas.forChunk? world.name (x / 16) (z / 16) = some a →
      ∃ b : Buffer, b.Addresses world x z ∧ (s.generate world (x / 16) (z / 16)).exec.1 =
        .ok (.generated ((s.generator.generate a).exec b).2)
  printed : ∀ (l : CommandLine.Loaded) (a : Area),
    l.atlas.forChunk? world.name (x / 16) (z / 16) = some a →
      ∃ lines, (CommandLine.columnLines l world x z).exec.1 = .ok lines

/-- A block column of a world cannot be had: whatever needs its chunk stops at an overflow. -/
structure World.Lost (world : World) (x z : Int) : Prop where
  buffer : ∀ track,
    Buffer.forChunk? (x / 16) (z / 16) world.minHeight world.maxHeight track = .error .overflow
  generated : ∀ (s : Service) (a : Area),
    s.atlas.forChunk? world.name (x / 16) (z / 16) = some a →
      (s.generate world (x / 16) (z / 16)).exec.1 = .error .overflow
  printed : ∀ (l : CommandLine.Loaded) (a : Area),
    l.atlas.forChunk? world.name (x / 16) (z / 16) = some a →
      (CommandLine.columnLines l world x z).exec.1 = .error .overflow

theorem World.addressable_of_lt {world : World} {x z : Int} (hx : Coord.InRange x)
    (hz : Coord.InRange z) (hx' : x < 2147483632) (hz' : z < 2147483632)
    (hy : world.minHeight ≤ world.maxHeight)
    (hheight : Coord.InRange (world.maxHeight - world.minHeight + 1)) :
    world.Addressable x z := by
  have hbuffer := Buffer.exists_addresses hx hz hx' hz' hy hheight
  refine ⟨hbuffer, ?_, ?_⟩
  · intro s a hhooks ha
    obtain ⟨b, hb, haddresses⟩ := hbuffer s.trackBiomes
    exact ⟨b, haddresses, (Service.yields_generate hhooks ha hb).exec_eq⟩
  · intro l a ha
    obtain ⟨b, hb, -⟩ := hbuffer true
    obtain ⟨b', hb', -⟩ := hbuffer false
    exact ⟨_, CommandLine.columnLines_eq_ok ha hb hb'⟩

theorem World.lost_of_le {world : World} {x z : Int} (hx : Coord.InRange x)
    (h : 2147483632 ≤ x ∨ 2147483632 ≤ z) : world.Lost x z := by
  rw [Coord.inRange_iff] at hx
  have hbuffer (track : Bool) :
      Buffer.forChunk? (x / 16) (z / 16) world.minHeight world.maxHeight track =
        .error .overflow := Buffer.forChunk?_eq_error (by omega) (by omega)
  refine ⟨hbuffer, ?_, ?_⟩
  · intro s a ha
    exact (Service.yields_generate_error ha (hbuffer s.trackBiomes)).exec_eq
  · intro l a ha
    exact CommandLine.columnLines_eq_error ha (hbuffer true)

/-- **A block column can be had iff it is not in the last chunk of an axis.** All others are lost to
an overflow. -/
theorem block_columns_are_addressable_iff {world : World} {x z : Int} (hx : Coord.InRange x)
    (hz : Coord.InRange z) (hy : world.minHeight ≤ world.maxHeight)
    (hheight : Coord.InRange (world.maxHeight - world.minHeight + 1)) :
    (world.Addressable x z ↔ x < 2147483632 ∧ z < 2147483632) ∧
      (world.Lost x z ↔ 2147483632 ≤ x ∨ 2147483632 ≤ z) := by
  have hnot (haddressable : world.Addressable x z) (hlost : world.Lost x z) : False := by
    obtain ⟨b, hb, -⟩ := haddressable.buffer true
    cases hb.symm.trans (hlost.buffer true)
  by_cases h : x < 2147483632 ∧ z < 2147483632
  · have haddressable := World.addressable_of_lt hx hz h.1 h.2 hy hheight
    exact ⟨iff_of_true haddressable h, iff_of_false (hnot haddressable) (by omega)⟩
  · have hlost : world.Lost x z := World.lost_of_le hx (by omega)
    exact ⟨iff_of_false (fun haddressable => hnot haddressable hlost) h,
      iff_of_true hlost (by omega)⟩

/-- The first and the last columns of a world that is owned by one small cell. -/
theorem block_columns_are_addressable_of_small :
    let world : World := ⟨"world", -64, 319⟩
    Coord.InRange (-2147483648) ∧ Coord.InRange 2147483631 ∧ Coord.InRange 2147483632 ∧
      Atlas.forChunk? #[.small] "world" (-134217728) 134217726 = some .small ∧
      Atlas.forChunk? #[.small] "world" (-134217728) 134217727 = some .small ∧
      world.Addressable (-2147483648) 2147483631 ∧ world.Lost (-2147483648) 2147483632 := by
  refine ⟨by decide, by decide, by decide, rfl, rfl, ?_, ?_⟩
  · exact (block_columns_are_addressable_iff (by decide) (by decide) (by decide)
      (by decide)).1.mpr (by decide)
  · exact (block_columns_are_addressable_iff (by decide) (by decide) (by decide)
      (by decide)).2.mpr (by decide)

/-- The last column of all has no buffer. -/
theorem last_column_overflows : Coord.InRange 2147483647 ∧ Coord.InRange 0 ∧
    (-64 : Int) ≤ 319 ∧ Coord.InRange (319 - -64 + 1) ∧
    Buffer.forChunk? (2147483647 / 16) (0 / 16) (-64) 319 true = .error .overflow :=
  ⟨by decide, by decide, by decide, by decide, rfl⟩

end PlotGrid
