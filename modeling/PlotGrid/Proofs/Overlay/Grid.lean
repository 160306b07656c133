import Mathlib.Data.List.Nodup
import PlotGrid.Proofs.Overlay.Fitting

/-!
# The cell of an overlay

An overlay stores what it has under the numbers of positions within one cell. A position elsewhere
is looked up at the position of the cell that it comes to, so all cells look alike; and whoever
looks at the positions of one cell, one after the other, meets every stored column and biome once.

- `Cell.positions`, `Cell.IsKey`: the positions of a cell and their numbers.
- `Cell.visit`, `Cell.visit_perm`: what is found at the positions of a cell.
- `Overlay.InCell`, `Draft.inCell_place`, `Draft.inCell_foldl`: what placements store is stored
  within the cell.
- `overlay_is_one_cell`: an overlay is what is found in one cell of it.
-/

namespace PlotGrid

/-! ## Positions and their numbers -/

theorem Coord.nodup_span (lo hi : Int) : (span lo hi).Nodup :=
  List.nodup_range.map fun i j (h : lo + (i : Int) = lo + j) => by omega

namespace Cell

variable {β : Type} {size x z : Int} {n : Nat}

/-- The positions of a cell, by `x` and `z`. -/
def positions (size : Int) : List (Int × Int) :=
  (Coord.span 0 (size - 1)).flatMap fun x => (Coord.span 0 (size - 1)).map fun z => (x, z)

/-- The number of a position of a cell. -/
def IsKey (size : Int) (n : Nat) : Prop :=
  ∃ p ∈ positions size, pair p.1 p.2 = n

/-- What is found at the positions of a cell, each with the number of its position. -/
def visit (size : Int) (look : Int → Int → Option β) : List (Nat × β) :=
  (positions size).filterMap fun p => (look p.1 p.2).map fun b => (pair p.1 p.2, b)

theorem mem_positions_iff :
    (x, z) ∈ positions size ↔ (0 ≤ x ∧ x < size) ∧ 0 ≤ z ∧ z < size := by
  simp only [positions, List.mem_flatMap, List.mem_map, Coord.mem_span, Prod.mk.injEq]
  constructor
  · rintro ⟨x', hx, z', hz, rfl, rfl⟩
    omega
  · rintro ⟨hx, hz⟩
    exact ⟨x, by omega, z, by omega, rfl, rfl⟩

theorem nodup_positions (size : Int) : (positions size).Nodup := by
  refine List.pairwise_flatMap.mpr ⟨fun x _ => ?_, ?_⟩
  · exact (Coord.nodup_span _ _).map fun z z' h => (Prod.mk.inj h).2
  · refine (Coord.nodup_span _ _).imp fun hne p hp q hq heq => hne ?_
    obtain ⟨z, -, rfl⟩ := List.mem_map.mp hp
    obtain ⟨z', -, rfl⟩ := List.mem_map.mp hq
    exact congrArg Prod.fst heq

/-- The number of a position tells the position. -/
theorem unpair_of_mem {p : Int × Int} (hsize : size ≤ 65536) (hp : p ∈ positions size) :
    unpair (pair p.1 p.2) = p := by
  obtain ⟨hx, hz⟩ := mem_positions_iff.mp hp
  exact unpair_pair (by omega) (by omega)

/-- A position of the cell is looked up under its own number. -/
theorem key_of_mem {p : Int × Int} (hp : p ∈ positions size) :
    key size p.1 p.2 = pair p.1 p.2 := by
  obtain ⟨hx, hz⟩ := mem_positions_iff.mp hp
  rw [key, Int.emod_eq_of_lt hx.1 hx.2, Int.emod_eq_of_lt hz.1 hz.2]

/-- Every position is looked up at one of the cell. -/
theorem isKey_key (hpos : 0 < size) (x z : Int) : IsKey size (key size x z) := by
  refine ⟨(x % size, z % size), mem_positions_iff.mpr ?_, rfl⟩
  exact ⟨⟨Int.emod_nonneg x (by omega), Int.emod_lt_of_pos x hpos⟩,
    Int.emod_nonneg z (by omega), Int.emod_lt_of_pos z hpos⟩

/-- All cells look alike. -/
theorem key_add_mul (size x z a b : Int) :
    key size (x + a * size) (z + b * size) = key size x z := by
  rw [key, key, Int.add_mul_emod_self_right, Int.add_mul_emod_self_right]

/-- No two positions of a cell have one number. -/
theorem IsKey.unpair_spec (h : IsKey size n) (hsize : size ≤ 65536) :
    ∃ p ∈ positions size, unpair n = p ∧
      ∀ q ∈ positions size, pair q.1 q.2 = n ↔ q = p := by
  obtain ⟨p, hp, rfl⟩ := h
  refine ⟨p, hp, unpair_of_mem hsize hp, fun q hq => ⟨fun heq => ?_, fun heq => by rw [heq]⟩⟩
  rw [← unpair_of_mem hsize hq, heq, unpair_of_mem hsize hp]

/-! ## Looking at all positions -/

theorem nodup_visit (hsize : size ≤ 65536) (look : Int → Int → Option β) :
    (visit size look).Nodup := by
  refine List.pairwise_filterMap.mpr ((nodup_positions size).imp_of_mem ?_)
  intro p q hp hq hne e he e' he' heq
  -- what is found at two positions differs in the number
  obtain ⟨b, -, rfl⟩ := Option.map_eq_some_iff.mp he
  obtain ⟨b', -, rfl⟩ := Option.map_eq_some_iff.mp he'
  refine hne ?_
  rw [← unpair_of_mem hsize hp, (Prod.mk.inj heq).1, unpair_of_mem hsize hq]

/-- **Looking at all positions of a cell meets every entry of a table once**, if the entries are
stored under the numbers of these positions. -/
theorem visit_perm {m : Std.HashMap Nat β} (hsize : size ≤ 65536)
    (hkeys : ∀ n ∈ m, IsKey size n) :
    (visit size fun x z => m[key size x z]?).Perm m.toList := by
  have hentries : m.toList.Nodup :=
    m.distinct_keys_toList.imp fun hne heq => by simp [heq] at hne
  refine (List.perm_ext_iff_of_nodup (nodup_visit hsize _) hentries).mpr ?_
  intro e
  rw [visit, List.mem_filterMap, Std.HashMap.mem_toList_iff_getElem?_eq_some]
  constructor
  · rintro ⟨p, hp, he⟩
    obtain ⟨b, hb, rfl⟩ := Option.map_eq_some_iff.mp he
    rw [key_of_mem hp] at hb
    exact hb
  · intro he
    obtain ⟨p, hp, hpair⟩ := hkeys e.1 (Std.HashMap.mem_iff_isSome_getElem?.mpr (by simp [he]))
    refine ⟨p, hp, Option.map_eq_some_iff.mpr ⟨e.2, ?_, Prod.ext hpair rfl⟩⟩
    rw [key_of_mem hp, hpair, he]

end Cell

/-! ## What placements store -/

/-- What an overlay stores is stored under numbers of positions of its cell. -/
structure Overlay.InCell (o : Overlay) : Prop where
  columns : ∀ n ∈ o.columns, Cell.IsKey o.size n
  biomes : ∀ n ∈ o.biomes, Cell.IsKey o.size n

namespace Draft

variable {reg : Registry} {d : Draft}

/-- Whatever the position of a placement, it is reduced to one of the cell. -/
theorem inCell_place (hpos : 0 < d.overlay.size) (h : d.overlay.InCell) (p : Placement) :
    (d.place reg p).overlay.InCell := by
  obtain ⟨hcolumns, hbiomes⟩ := h
  cases p with
  | voxel x y z v isTurned height =>
    refine ⟨fun n hn => ?_, hbiomes⟩
    show Cell.IsKey d.overlay.size n
    by_cases hkey : Cell.key d.overlay.size x z = n
    · rw [← hkey]
      exact Cell.isKey_key hpos x z
    · simp only [place, Std.HashMap.mem_iff_isSome_getElem?, getElem?_putVoxel,
        if_neg hkey] at hn
      exact hcolumns n (Std.HashMap.mem_iff_isSome_getElem?.mpr hn)
  | biome x z tag =>
    refine ⟨hcolumns, fun n hn => ?_⟩
    show Cell.IsKey d.overlay.size n
    cases tag with
    | some t =>
      rcases Std.HashMap.mem_insert.mp hn with hkey | hold
      · rw [← eq_of_beq hkey]
        exact Cell.isKey_key hpos x z
      · exact hbiomes n hold
    | none => exact hbiomes n (Std.HashMap.mem_of_mem_erase hn)

theorem inCell_foldl (ps : List Placement) (hpos : 0 < d.overlay.size) (h : d.overlay.InCell) :
    (ps.foldl (place reg) d).overlay.InCell := by
  induction ps generalizing d with
  | nil => exact h
  | cons p rest ih => exact ih (by rw [size_place]; exact hpos) (inCell_place hpos h p)

end Draft

namespace Overlay

variable {reg : Registry} {g : Geometry} {s : SchematicSettings} {f : Fragments} {o : Overlay}
  {notices : Array Notice}

/-- What is built is stored within the cell. -/
theorem inCell_of_build (h : (build reg g s f).exec = (.ok o, notices)) :
    o.size = g.plotWidth + g.roadWidth ∧ o.InCell := by
  obtain ⟨blank, hstart, -, d, rfl, -, rfl, -⟩ := build_eq_ok h
  obtain ⟨-, hsize, hpos, hcolumns, hbiomes, -⟩ := start_eq_ok hstart
  have hblank : blank.InCell := by
    constructor
    · intro n hn
      rw [hcolumns] at hn
      exact absurd hn Std.HashMap.not_mem_empty
    · intro n hn
      rw [hbiomes] at hn
      exact absurd hn Std.HashMap.not_mem_empty
  refine ⟨?_, Draft.inCell_foldl _ hpos hblank⟩
  rw [Draft.size_foldl]
  exact (Coord.add_eq_ok_iff.mp hsize).2

/-- The counts of an overlay are those of the columns and biomes found in one cell. -/
theorem summary_eq_visit (o : Overlay)
    (hcolumns : (Cell.visit o.size o.column?).Perm o.columns.toList)
    (hbiomes : (Cell.visit o.size o.biome?).Perm o.biomes.toList) :
    o.summary.columns = (Cell.visit o.size o.column?).length ∧
      o.summary.voxels =
        ((Cell.visit o.size o.column?).flatMap fun c => c.2.voxels).length ∧
      o.summary.entityVoxels =
        ((Cell.visit o.size o.column?).flatMap fun c => c.2.voxels).countP Voxel.isEntity ∧
      o.summary.biomes = (Cell.visit o.size o.biome?).length := by
  have hvoxels : ((Cell.visit o.size o.column?).flatMap fun c => c.2.voxels).Perm o.voxels :=
    hcolumns.flatMap_right fun c => c.2.voxels
  refine ⟨?_, hvoxels.length_eq.symm, (hvoxels.countP_eq _).symm, ?_⟩
  · rw [hcolumns.length_eq, Std.HashMap.length_toList]
    rfl
  · rw [hbiomes.length_eq, Std.HashMap.length_toList]
    rfl

end Overlay

/-- **An overlay is what is found in one cell of it.** A build that does not overflow stores its
columns and biomes under the numbers of positions within the cell, and a number tells its
position; all cells look alike; and the positions of one cell meet every stored column and biome
once, so they give the counts of the summary. -/
theorem overlay_is_one_cell {reg : Registry} {g : Geometry} {s : SchematicSettings}
    {f : Fragments} (hpos : 1 ≤ g.plotWidth + g.roadWidth)
    (hsize : g.plotWidth + g.roadWidth ≤ greatestSize)
    (hrun : (Overlay.build reg g s f).exec.1 ≠ .error .overflow) :
    ∃ o notices, (Overlay.build reg g s f).exec = (.ok o, notices) ∧
      o.size = g.plotWidth + g.roadWidth ∧
      (∀ n, n ∈ o.columns ∨ n ∈ o.biomes →
        ∃ p ∈ Cell.positions o.size, Cell.unpair n = p ∧
          ∀ q ∈ Cell.positions o.size, Cell.pair q.1 q.2 = n ↔ q = p) ∧
      (∀ x z a b, o.column? (x + a * o.size) (z + b * o.size) = o.column? x z ∧
        o.biome? (x + a * o.size) (z + b * o.size) = o.biome? x z) ∧
      (Cell.visit o.size o.column?).Perm o.columns.toList ∧
      (Cell.visit o.size o.biome?).Perm o.biomes.toList ∧
      o.summary.columns = (Cell.visit o.size o.column?).length ∧
      o.summary.voxels =
        ((Cell.visit o.size o.column?).flatMap fun c => c.2.voxels).length ∧
      o.summary.entityVoxels =
        ((Cell.visit o.size o.column?).flatMap fun c => c.2.voxels).countP Voxel.isEntity ∧
      o.summary.biomes = (Cell.visit o.size o.biome?).length := by
  obtain ⟨o, notices, hexec⟩ := Overlay.exists_build_eq_of_pos (by omega) hrun
  obtain ⟨hcell, hin⟩ := Overlay.inCell_of_build hexec
  have hbits : o.size ≤ 65536 := by
    have hgreatest : greatestSize ≤ 65536 := by decide
    omega
  have hcolumns := Cell.visit_perm hbits hin.columns
  have hbiomes := Cell.visit_perm hbits hin.biomes
  refine ⟨o, notices, hexec, hcell, ?_, ?_, hcolumns, hbiomes,
    o.summary_eq_visit hcolumns hbiomes⟩
  · rintro n (hn | hn)
    · exact (hin.columns n hn).unpair_spec hbits
    · exact (hin.biomes n hn).unpair_spec hbits
  · intro x z a b
    rw [Overlay.column?, Overlay.biome?, Cell.key_add_mul]
    exact ⟨rfl, rfl⟩

/-- The overlay of a small cell repeats after three blocks, and its nine positions give the
counts. -/
theorem overlay_is_one_cell_of_small :
    ∃ o notices, (Overlay.build .blank .small .default .small).exec = (.ok o, notices) ∧
      o.size = 3 ∧ (∀ x z, o.column? (x + 3) (z + 6) = o.column? x z) ∧
      (Cell.visit 3 o.column?).Perm o.columns.toList ∧
      o.summary.columns = (Cell.visit 3 o.column?).length := by
  obtain ⟨o, notices, hexec, hsize, -, hrepeat, hcolumns, -, hcount, -⟩ :=
    overlay_is_one_cell (by decide) (by decide) (Overlay.small_runs .blank)
  have hsize : o.size = 3 := hsize
  rw [hsize] at hrepeat hcolumns hcount
  refine ⟨o, notices, hexec, hsize, fun x z => ?_, hcolumns, hcount⟩
  simpa using (hrepeat x z 1 2).1

end PlotGrid
