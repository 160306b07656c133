import Mathlib.Data.String.Basic
import PlotGrid.Proofs.Fragment.Cells
import PlotGrid.Proofs.Outcome
import PlotGrid.Proofs.Overflow

/-!
# The content of a loaded fragment

The cells of a schematic are poured into a box of air one after the other: each goes to a place of
its own, and all places are reached. So the box ends up as a clip in which each cell shows its own
block, and the names that were noted on the way are those of the cells left out. What the reader
makes of a file is not looked into: whatever it presents is loaded this way, if there is room for
the box. There always is for edges of 16 bits, as schematic files have them.

- `Clip.HasRoom`, `Clip.filled?_eq_ok_iff`, `Clip.overflows_filled?`: boxes that there is room for.
- `Clip.written`, `Clip.cell_written`: one cell is written, and no other.
- `SchematicView.Poured`, `SchematicView.Poured.step`, `SchematicView.Poured.foldlM`: one cell is
  poured, and then a list of cells.
- `SchematicView.exists_pour_eq`: all cells come to a clip that shows them.
- `FileTree.Presents`, `FragmentSource.exec_files`: the loading of a file, with its notices.
- `fragments_are_cell_exact`: all of it.
-/

namespace PlotGrid

/-! ## Boxes -/

namespace Clip

/-- There is room for the tables of a box. -/
def HasRoom (width height length : Nat) : Prop :=
  voxelBytes * (width * height * length) < Count.room ∧ biomeBytes * (width * length) < Count.room

instance (width height length : Nat) : Decidable (HasRoom width height length) :=
  inferInstanceAs (Decidable (_ ∧ _))

variable {width height length : Nat} {v : Voxel} {c : Clip} {x y z : Nat}

theorem table_eq_ok_iff {α : Type} {bytes size : Nat} {a : α} {entries : Vector α size} :
    table bytes size a = .ok entries ↔ bytes * size < Count.room ∧ entries = .replicate size a := by
  rw [table, Checked.map_eq_ok_iff]
  constructor
  · rintro ⟨⟨⟩, hroom, rfl⟩
    exact ⟨Count.reserve_eq_ok_iff.mp hroom, rfl⟩
  · rintro ⟨hroom, rfl⟩
    exact ⟨(), Count.reserve_eq_ok_iff.mpr hroom, rfl⟩

/-- **A box can be had iff there is room for its tables**, and then it has equal voxels and no
biomes. -/
theorem filled?_eq_ok_iff (harea : width * height < Count.limit) :
    filled? width height length v = .ok c ↔ HasRoom width height length ∧
      c = ⟨width, height, length, .replicate _ v, .replicate _ none⟩ := by
  constructor
  · intro h
    obtain ⟨area, harea, h⟩ := Checked.bind_eq_ok_iff.mp h
    obtain ⟨volume, -, h⟩ := Checked.bind_eq_ok_iff.mp h
    obtain ⟨voxels, hvoxels, h⟩ := Checked.bind_eq_ok_iff.mp h
    obtain ⟨columns, -, h⟩ := Checked.bind_eq_ok_iff.mp h
    obtain ⟨biomes, hbiomes, h⟩ := Checked.bind_eq_ok_iff.mp h
    obtain ⟨hroom, rfl⟩ := table_eq_ok_iff.mp hvoxels
    obtain ⟨hroom', rfl⟩ := table_eq_ok_iff.mp hbiomes
    exact ⟨⟨hroom, hroom'⟩, (Except.ok.inj h).symm⟩
  · rintro ⟨⟨hvoxels, hbiomes⟩, rfl⟩
    -- a table with room has no more entries than can be counted
    have hcount {bytes n : Nat} (hbytes : 0 < bytes) (hn : bytes * n < Count.room) :
        Count.narrow n = .ok n := by
      have hle : n ≤ bytes * n := Nat.le_mul_of_pos_left n hbytes
      refine Count.narrow_eq_ok_iff.mpr ⟨?_, rfl⟩
      simp only [Count.room, Count.limit] at hn ⊢
      omega
    refine Checked.bind_eq_ok_iff.mpr ⟨_, Count.narrow_eq_ok_iff.mpr ⟨harea, rfl⟩, ?_⟩
    refine Checked.bind_eq_ok_iff.mpr ⟨_, hcount (by decide) hvoxels, ?_⟩
    refine Checked.bind_eq_ok_iff.mpr ⟨_, table_eq_ok_iff.mpr ⟨hvoxels, rfl⟩, ?_⟩
    refine Checked.bind_eq_ok_iff.mpr ⟨_, hcount (by decide) hbiomes, ?_⟩
    exact Checked.bind_eq_ok_iff.mpr ⟨_, table_eq_ok_iff.mpr ⟨hbiomes, rfl⟩, rfl⟩

/-- A box that cannot be had is too large. -/
theorem onlyFaults_filled? : OnlyFaults Fault.IsOverflow (filled? width height length v) := by
  have hnarrow (n : Nat) : OnlyFaults Fault.IsOverflow (Count.narrow n) :=
    fun fault h => .inl (Count.narrow_eq_error_iff.mp h).2
  have htable {α : Type} (bytes size : Nat) (a : α) :
      OnlyFaults Fault.IsOverflow (table bytes size a) := by
    refine OnlyFaults.map (fun fault h => ?_) _
    exact .inr (Count.reserve_eq_error_iff.mp h).2
  exact (hnarrow _).bind fun _ _ => (hnarrow _).bind fun _ _ => (htable _ _ _).bind fun _ _ =>
    (hnarrow _).bind fun _ _ => (htable _ _ _).bind fun _ _ => .ok _

theorem overflows_filled? (harea : width * height < Count.limit)
    (h : ¬ HasRoom width height length) : Overflows (filled? width height length v) :=
  onlyFaults_filled?.overflows fun _ hc => h ((filled?_eq_ok_iff harea).mp hc).1

/-! ## One cell of a clip -/

/-- The number of a cell of a box that is no larger than a count can be computed. -/
theorem index?_eq_ok (hx : x < c.width) (hy : y < c.height) (hz : z < c.length)
    (hroom : c.width * c.height * c.length < Count.limit) :
    c.index? x y z = .ok (c.index x y z) := by
  have hlt := index_lt hx hy hz
  have hrow : y * c.length + z ≤ (y * c.length + z) * c.width :=
    Nat.le_mul_of_pos_right _ (Nat.zero_lt_of_lt hx)
  have hindex : c.index x y z = (y * c.length + z) * c.width + x := rfl
  -- no step of the computation comes to more than the number of the cell
  have hnarrow (n : Nat) (hn : n ≤ c.index x y z) : Count.narrow n = .ok n :=
    Count.narrow_eq_ok_iff.mpr ⟨by omega, rfl⟩
  refine Checked.bind_eq_ok_iff.mpr ⟨_, hnarrow _ (by omega), ?_⟩
  refine Checked.bind_eq_ok_iff.mpr ⟨_, hnarrow _ (by omega), ?_⟩
  exact Checked.bind_eq_ok_iff.mpr ⟨_, hnarrow _ (by omega), hnarrow _ (by omega)⟩

/-- A clip with another voxel in a cell of its box. -/
def written (c : Clip) (x y z : Nat) (v : Voxel) : Clip :=
  { c with voxels := c.voxels.setIfInBounds (c.index x y z) v }

theorem setVoxel_eq_ok (hx : x < c.width) (hy : y < c.height) (hz : z < c.length)
    (hroom : c.width * c.height * c.length < Count.limit) (v : Voxel) :
    c.setVoxel x y z v = .ok (c.written x y z v) := by
  refine Checked.bind_eq_ok_iff.mpr ⟨_, index?_eq_ok hx hy hz hroom, ?_⟩
  exact Checked.bind_eq_ok_iff.mpr ⟨_, if_pos (index_lt hx hy hz), rfl⟩

theorem cell_eq (c : Clip) (x y z : Nat) :
    c.cell x y z = c.voxels[c.index x y z]?.getD .air := by
  rw [cell, Vector.getD, Array.getD_eq_getD_getElem?, Vector.getElem?_toArray]

/-- **A written voxel is seen in its own cell and in no other.** -/
theorem cell_written {x' y' z' : Nat} (hx : x < c.width) (hy : y < c.height) (hz : z < c.length)
    (hx' : x' < c.width) (hz' : z' < c.length) (v : Voxel) :
    (c.written x y z v).cell x' y' z' =
      if (x', y', z') = (x, y, z) then v else c.cell x' y' z' := by
  rw [cell_eq, cell_eq]
  show (c.voxels.setIfInBounds (c.index x y z) v)[c.index x' y' z']?.getD .air = _
  rw [Vector.getElem?_setIfInBounds]
  by_cases hcell : (x', y', z') = (x, y, z)
  · obtain ⟨rfl, rfl, rfl⟩ : x' = x ∧ y' = y ∧ z' = z := by simpa using hcell
    rw [if_pos rfl, if_pos (index_lt hx hy hz), if_pos rfl, Option.getD_some]
  · have hne : c.index x y z ≠ c.index x' y' z' := fun hindex => by
      obtain ⟨rfl, rfl, rfl⟩ := index_inj hx hx' hz hz' hindex
      exact hcell rfl
    rw [if_neg hne, if_neg hcell]

end Clip

/-! ## One cell after the other -/

namespace SchematicView

variable {reg : Registry} {s : SchematicView} {done ps : List (Nat × Nat × Nat)}
  {p : Nat × Nat × Nat} {held : Clip × Std.TreeSet String}

/-- There is room for a clip of the schematic. -/
def HasRoom (s : SchematicView) : Prop :=
  Clip.HasRoom s.width.toNat s.height.toNat s.length.toNat

/-- There is room for every box with edges of 16 bits. -/
theorem hasRoom_of_lt (hwidth : s.width < 65536) (hheight : s.height < 65536)
    (hlength : s.length < 65536) : s.HasRoom := by
  have hedge {n : Int} (hn : n < 65536) : n.toNat ≤ 65535 := by omega
  have harea := Nat.mul_le_mul (hedge hwidth) (hedge hheight)
  have hvolume := Nat.mul_le_mul harea (hedge hlength)
  have hcolumns := Nat.mul_le_mul (hedge hwidth) (hedge hlength)
  simp only [HasRoom, Clip.HasRoom, Clip.voxelBytes, Clip.biomeBytes, Count.room]
  omega

/-- What is held when some of the cells have been poured. -/
structure Poured (reg : Registry) (s : SchematicView) (done : List (Nat × Nat × Nat))
    (held : Clip × Std.TreeSet String) : Prop where
  edges : held.1.width = s.width.toNat ∧ held.1.height = s.height.toNat ∧
    held.1.length = s.length.toNat
  room : held.1.width * held.1.height * held.1.length < Count.limit
  cells : ∀ p, s.Inside p →
    held.1.cell p.1 p.2.1 p.2.2 = if p ∈ done then s.shown reg p else .air
  plain : ∀ tag ∈ held.1.biomes.toList, tag = none
  names : ∀ name, name ∈ held.2 ↔ ∃ p ∈ done, s.leftOut? reg p = some name

/-- A cell of the schematic is one of the clip. -/
theorem Poured.inside (h : s.Poured reg done held) (hp : s.Inside p) :
    p.1 < held.1.width ∧ p.2.1 < held.1.height ∧ p.2.2 < held.1.length := by
  obtain ⟨hwidth, hheight, hlength⟩ := h.edges
  rw [hwidth, hheight, hlength]
  exact hp

/-- A cell that is air need not be written. -/
theorem Poured.cells_of_air (h : s.Poured reg done held) (hair : s.shown reg p = .air) :
    ∀ q, s.Inside q →
      held.1.cell q.1 q.2.1 q.2.2 = if q ∈ p :: done then s.shown reg q else .air := by
  intro q hq
  rw [h.cells q hq]
  by_cases heq : q = p
  · rw [heq, hair, ite_self, ite_self]
  · rw [if_congr (List.mem_cons.trans (or_iff_right heq)) rfl rfl]

/-- A cell without a name leaves the names as they are. -/
theorem Poured.names_of_none (h : s.Poured reg done held) (hnone : s.leftOut? reg p = none)
    (name : String) : name ∈ held.2 ↔ ∃ q ∈ p :: done, s.leftOut? reg q = some name := by
  rw [h.names]
  simp [hnone]

/-- **Pouring a cell gives it what is made of it**, and notes its name if that is nothing. -/
theorem Poured.step (h : s.Poured reg done held) (hp : s.Inside p) :
    ∃ held', s.pourCell reg held p = .ok held' ∧ s.Poured reg (p :: done) held' := by
  obtain ⟨x, y, z⟩ := p
  cases hblock : s.block? x y z with
  | none =>
    refine ⟨held, by rw [pourCell, hblock], h.edges, h.room, ?_, h.plain, ?_⟩
    · exact h.cells_of_air (shown_of_none hblock)
    · exact h.names_of_none (leftOut?_of_none hblock)
  | some b =>
    have hshown : s.shown reg (x, y, z) = (b.voxel? reg).getD .air := shown_of_some hblock
    have hleft : s.leftOut? reg (x, y, z) = b.leftOut? reg := leftOut?_of_some hblock
    cases hopen : b.isOpen with
    | true =>
      rw [SchematicBlock.voxel?_of_isOpen hopen, Option.getD_some] at hshown
      have hnone : b.leftOut? reg = none := by
        rw [SchematicBlock.leftOut?, SchematicBlock.voxel?_of_isOpen hopen]
        rfl
      refine ⟨held, by simp [pourCell, hblock, hopen], h.edges, h.room, ?_, h.plain, ?_⟩
      · exact h.cells_of_air hshown
      · exact h.names_of_none (hleft.trans hnone)
    | false =>
      rw [SchematicBlock.leftOut?] at hleft
      rw [SchematicBlock.voxel?_of_not_isOpen hopen] at hshown hleft
      cases hvoxel : reg.voxelOfKey? b.key with
      | none =>
        rw [hvoxel] at hshown hleft
        rw [if_pos Option.isNone_none] at hleft
        refine ⟨(held.1, held.2.insert (stripNamespace (BlockKey.parse b.key).base)), ?_, h.edges,
          h.room, h.cells_of_air hshown, h.plain, fun name => ?_⟩
        · simp [pourCell, hblock, hopen, hvoxel]
        · rw [Std.TreeSet.mem_insert, Std.compare_eq_iff_eq, h.names]
          simp [hleft]
      | some v =>
        rw [hvoxel] at hshown hleft
        obtain ⟨hx, hy, hz⟩ := h.inside hp
        have hwrite := Clip.setVoxel_eq_ok hx hy hz h.room v
        refine ⟨(held.1.written x y z v, held.2), ?_, h.edges, h.room, fun q hq => ?_, h.plain,
          h.names_of_none hleft⟩
        · simp [pourCell, hblock, hopen, hvoxel, hwrite, Except.map]
        · obtain ⟨hx', -, hz'⟩ := h.inside hq
          rw [Clip.cell_written hx hy hz hx' hz', h.cells q hq]
          by_cases heq : q = (x, y, z)
          · rw [if_pos heq, if_pos (by rw [heq]; exact List.mem_cons_self), heq, hshown]
            rfl
          · rw [if_neg heq, if_congr (List.mem_cons.trans (or_iff_right heq)) rfl rfl]

/-- **Pouring a list of cells gives each of them what is made of it.** -/
theorem Poured.foldlM (h : s.Poured reg done held) (hps : ∀ p ∈ ps, s.Inside p) :
    ∃ held', ps.foldlM (s.pourCell reg) held = .ok held' ∧
      s.Poured reg (ps.reverse ++ done) held' := by
  induction ps generalizing held done with
  | nil => exact ⟨held, rfl, h⟩
  | cons p rest ih =>
    obtain ⟨next, hnext, hpoured⟩ := h.step (hps p List.mem_cons_self)
    obtain ⟨last, hlast, hall⟩ := ih hpoured fun q hq => hps q (List.mem_cons_of_mem p hq)
    refine ⟨last, ?_, ?_⟩
    · rw [List.foldlM_cons]
      exact Checked.bind_eq_ok_iff.mpr ⟨next, hnext, hlast⟩
    · rw [List.reverse_cons, List.append_assoc]
      exact hall

/-! ## All cells -/

/-- The names of the cells that nothing is made of, each once and in order. -/
def Reports (reg : Registry) (s : SchematicView) (names : List String) : Prop :=
  names.Pairwise (· < ·) ∧ ∀ name, name ∈ names ↔ ∃ x y z b, s.Inside (x, y, z) ∧
    s.block? x y z = some b ∧ b.isOpen = false ∧ reg.blockOfKey? b.key = none ∧
    reg.unknown = none ∧ stripNamespace (BlockKey.parse b.key).base = name

theorem IsBox.not_negative (h : s.IsBox) : ¬ (s.width < 0 ∨ s.height < 0 ∨ s.length < 0) := by
  have := h.width.1
  have := h.height.1
  have := h.length.1
  omega

theorem IsBox.area_lt (h : s.IsBox) : s.width.toNat * s.height.toNat < Count.limit := by
  have hedge {n : Int} (hn : Coord.InRange n) : n.toNat ≤ 2147483647 := by
    have := Coord.inRange_iff.mp hn
    omega
  have harea := Nat.mul_le_mul (hedge h.width.2) (hedge h.height.2)
  simp only [Count.limit]
  omega

/-- **The cells one after the other come to a clip that shows them and to the names of those that
nothing is made of**, if there is room for the box. -/
theorem exists_pour_eq (reg : Registry) (hbox : s.IsBox) (hroom : s.HasRoom) :
    ∃ clip names, s.pour reg = .ok (clip, names) ∧ clip.ShowsExactly reg s ∧
      s.Reports reg names.toList := by
  have hblank := (Clip.filled?_eq_ok_iff (v := .air) hbox.area_lt).mpr ⟨hroom, rfl⟩
  have hstart : s.Poured reg [] (⟨s.width.toNat, s.height.toNat, s.length.toNat, .replicate _ .air,
      .replicate _ none⟩, ∅) := {
    edges := ⟨rfl, rfl, rfl⟩
    room := by
      have hvoxels := hroom.1
      simp only [Clip.voxelBytes, Count.room, Count.limit] at hvoxels ⊢
      omega
    cells := fun p hp => by
      rw [if_neg List.not_mem_nil, Clip.cell_eq, Vector.getElem?_replicate]
      split <;> rfl
    plain := by simp
    names := by simp }
  obtain ⟨⟨clip, names⟩, hrun, hpoured⟩ := hstart.foldlM fun p => mem_places_iff.mp
  have hall (p : Nat × Nat × Nat) : p ∈ s.places.reverse ++ [] ↔ s.Inside p := by
    rw [List.append_nil, List.mem_reverse, mem_places_iff]
  have hcell (x y z : Nat) (hin : s.Inside (x, y, z)) :
      clip.cell x y z = s.shown reg (x, y, z) :=
    (hpoured.cells _ hin).trans (if_pos ((hall _).mpr hin))
  obtain ⟨hwidth, hheight, hlength⟩ := hpoured.edges
  refine ⟨clip, names, Checked.bind_eq_ok_iff.mpr ⟨_, hblank, hrun⟩, ?_, ?_, fun name => ?_⟩
  · exact {
      edges := by
        have := hbox.width.1
        have := hbox.height.1
        have := hbox.length.1
        dsimp only at hwidth hheight hlength
        omega
      empty := fun x y z hin hnone => (hcell x y z hin).trans (shown_of_none hnone)
      shown := fun x y z hin b hb => by
        rw [hcell x y z hin, shown_of_some hb]
        exact SchematicBlock.shownAs_voxel? reg b
      plain := hpoured.plain }
  · have hordered : names.toList.Pairwise fun a b => compare a b = .lt :=
      Std.TreeSet.ordered_toList
    exact hordered.imp fun h => compareOfLessAndEq_eq_lt.mp h
  · rw [Std.TreeSet.mem_toList, hpoured.names]
    constructor
    · rintro ⟨⟨x, y, z⟩, hp, hname⟩
      obtain ⟨b, hb⟩ := leftOut?_eq_some_iff.mp hname
      exact ⟨x, y, z, b, (hall _).mp hp, hb⟩
    · rintro ⟨x, y, z, b, hp, hb⟩
      exact ⟨(x, y, z), (hall _).mpr hp, leftOut?_eq_some_iff.mpr ⟨b, hb⟩⟩

theorem skippedText_eq (path : String) (names : List String) : skippedText path names =
    s!"{path}: skipped {names.length} unmapped block type(s): " ++ ", ".intercalate names :=
  rfl

/-- The notices about a clip that has been loaded from a path. -/
def loadNotices (path : String) (clip : Clip) (names : List String) : Array Notice :=
  (if names = [] then #[] else #[⟨.warn, skippedText path names⟩]).push
    ⟨.debug, loadedText path clip⟩

end SchematicView

/-! ## Files -/

/-- The reader presents a schematic for the file at a path. -/
def FileTree.Presents (t : FileTree) (path : String) (s : SchematicView) : Prop :=
  ∃ content, t.find path = .ok (.file content) ∧ t.reader path (some content) = .ok (.ok s)

theorem FileTree.Presents.readSchematic_eq {t : FileTree} {path : String} {s : SchematicView}
    (h : t.Presents path s) : t.readSchematic path = .ok (.ok s) := by
  obtain ⟨content, hfind, hread⟩ := h
  rw [FileTree.readSchematic, FileTree.content?, hfind]
  dsimp only
  rw [hread]
  rfl

namespace FragmentSource

variable {t : FileTree} {reg : Registry} {path : String} {s : SchematicView}

/-- What is read is loaded, whatever it is. -/
theorem files_eq (h : t.Presents path s) :
    files t reg path = do return some (← s.load reg path) := by
  have hread := h.readSchematic_eq
  obtain ⟨content, hfind, -⟩ := h
  unfold files
  rw [hfind]
  dsimp only
  rw [hread]
  rfl

/-- **The loading of a schematic**: the clip, after a warning if names are left out. -/
theorem exec_files (h : t.Presents path s) (hbox : s.IsBox) {clip : Clip}
    {names : Std.TreeSet String} (hpour : s.pour reg = .ok (clip, names)) :
    (files t reg path).run.exec =
      (.ok (.ok (some clip)), SchematicView.loadNotices path clip names.toList) := by
  have hload : s.load reg path = do
      SchematicView.reportLoaded path clip names.toList
      return clip := by
    rw [SchematicView.load, if_neg hbox.not_negative, hpour]
    rfl
  rw [files_eq h, hload]
  unfold SchematicView.reportLoaded SchematicView.loadNotices
  cases names.toList with
  | nil => rfl
  | cons name rest => rfl

/-- A schematic that there is no room for is not loaded. -/
theorem overflows_files (h : t.Presents path s) (hbox : s.IsBox) (hroom : ¬ s.HasRoom) :
    Overflows (files t reg path).run.exec.1 := by
  obtain ⟨fault, hblank, hfault⟩ := Clip.overflows_filled? (v := .air) hbox.area_lt hroom
  have hpour : s.pour reg = .error fault := by
    rw [SchematicView.pour, hblank]
    rfl
  refine ⟨fault, ?_, hfault⟩
  rw [files_eq h, SchematicView.load, if_neg hbox.not_negative, hpour]
  rfl

end FragmentSource

/-- **Fragments are loaded cell by cell.** Take any registry, any schematic and any file that the
reader presents as this schematic. If there is room for a clip, it is loaded with the edges of the
schematic. Each of its cells shows what is made of the block there, and two schematics that have one
block in a cell show one voxel in it, whatever their other cells are. There is one warning if cells
stay air because nothing is made of their blocks, and none otherwise; it lists the names of these
blocks, without the default namespace, in order and each once. Without room the loading stops before
the first cell. -/
theorem fragments_are_cell_exact (reg : Registry) (s : SchematicView) (hbox : s.IsBox) :
    (s.HasRoom → ∃ (clip : Clip) (names : List String),
      clip.ShowsExactly reg s ∧
      (∀ (s' : SchematicView) (clip' : Clip), clip'.ShowsExactly reg s' → ∀ x y z,
        s.Inside (x, y, z) → s'.Inside (x, y, z) → s'.block? x y z = s.block? x y z →
          clip'.cell x y z = clip.cell x y z) ∧
      s.Reports reg names ∧
      ∀ t path, FileTree.Presents t path s → ∃ notices,
        (FragmentSource.files t reg path).run.exec = (.ok (.ok (some clip)), notices) ∧
        (notices.toList.filter fun n => n.severity = .warn) =
          if names = [] then []
          else [⟨.warn, s!"{path}: skipped {names.length} unmapped block type(s): " ++
            ", ".intercalate names⟩]) ∧
    (¬ s.HasRoom → ∀ t path, FileTree.Presents t path s →
      Overflows (FragmentSource.files t reg path).run.exec.1) := by
  refine ⟨fun hroom => ?_, fun hroom t path h => FragmentSource.overflows_files h hbox hroom⟩
  obtain ⟨clip, names, hpour, hshows, hreports⟩ := s.exists_pour_eq reg hbox hroom
  refine ⟨clip, names.toList, hshows, fun s' clip' hshows' x y z => hshows.cell_eq hshows',
    hreports, fun t path h => ⟨_, FragmentSource.exec_files h hbox hpour, ?_⟩⟩
  unfold SchematicView.loadNotices
  split
  · simp
  · simp [SchematicView.skippedText_eq]

/-- Air and stone. -/
def RegistryConfig.quarry : RegistryConfig :=
  ⟨[⟨"air", none, ∅⟩, ⟨"stone", none, ∅⟩], [], none⟩

/-- The block that a key of turned stone names. -/
theorem RegistryConfig.quarry_build : ∃ reg, Registry.build .quarry = .ok reg ∧
    reg.unknown = none ∧ reg.blockOfKey? "minecraft:stone[rotation=5]" = some ⟨1, 0⟩ ∧
    reg.blockOfKey? "minecraft:mud" = none := by
  have hbuild : ∃ reg, Registry.build .quarry = .ok reg ∧ reg.unknown = none ∧
      reg.get? 1 = some ⟨1, "stone", []⟩ ∧ reg.idByName =
        ((∅ : Std.HashMap String BlockId).insert "air" 0).insert "stone" 1 :=
    ⟨_, rfl, rfl, rfl, rfl⟩
  obtain ⟨reg, hbuild, hunknown, hget, hnames⟩ := hbuild
  have hstone : stripNamespace (BlockKey.parse "minecraft:stone[rotation=5]").base = "stone" := by
    decide
  have hprops : (BlockKey.parse "minecraft:stone[rotation=5]").props.isEmpty = false := by decide
  have hmud : stripNamespace (BlockKey.parse "minecraft:mud").base = "mud" := by decide
  have hmudId : reg.idOf? "mud" = none := by
    rw [Registry.idOf?, hnames, Std.HashMap.getElem?_insert, if_neg (by decide),
      Std.HashMap.getElem?_insert, if_neg (by decide), Std.HashMap.getElem?_empty]
  refine ⟨reg, hbuild, hunknown, ?_, ?_⟩
  · rw [Registry.blockOfKey?, hstone, hprops, if_neg Bool.false_ne_true, Registry.blockOf?,
      Registry.idOf?, hnames, Std.HashMap.getElem?_insert_self, Option.map_some, hget]
    rfl
  · rw [Registry.blockOfKey?, hmud, Registry.blockOf?, hmudId, Option.map_none]

/-- Turned stone, an open cell, and mud. -/
def Schematic.heap : Schematic :=
  ⟨3, 1, 1, #[.ofText "minecraft:stone[rotation=5]", .ofText "minecraft:structure_void",
    .ofText "minecraft:mud"], #v[0, 1, 2]⟩

/-- A tree of one file. -/
def FileTree.heap : FileTree :=
  ⟨"", [(["plot.schem"], .file (.schematic .heap))], .standard⟩

theorem FileTree.presents_heap : FileTree.heap.Presents "plot.schem" Schematic.heap.view := by
  have hnames : Path.names "plot.schem" = ["plot.schem"] := by
    rw [Path.names, String.splitOn, if_neg (by decide)]
    -- none of the characters is a slash
    iterate 10 rw [String.splitOnAux, if_neg (by decide), if_neg (by decide)]
    rw [String.splitOnAux, if_pos (by decide)]
    decide
  have htop : Path.names "" = [""] := by
    rw [Path.names, String.splitOn, if_neg (by decide), String.splitOnAux, if_pos (by decide)]
    decide
  have hstart : FileTree.heap.start "plot.schem" = (.inside [], ["plot.schem"]) := by
    rw [start, hnames, heap, htop]
    rfl
  have hfind : FileTree.heap.find "plot.schem" = .ok (.file (.schematic .heap)) := by
    rw [find, hstart]
    rfl
  have hending : "plot.schem".endsWith ".schem" = true := by decide +kernel
  refine ⟨.schematic .heap, hfind, ?_⟩
  show SchematicReader.standard "plot.schem" (some (.schematic .heap)) = _
  rw [SchematicReader.standard, hending]
  rfl

/-- Stone is loaded with its tag, and mud is left out. -/
theorem heap_is_cell_exact : ∃ reg clip names notices, Registry.build .quarry = .ok reg ∧
    (FragmentSource.files .heap reg "plot.schem").run.exec = (.ok (.ok (some clip)), notices) ∧
    (clip.cell 0 0 0).block = ⟨1, 0⟩ ∧ (clip.cell 0 0 0).rot = some 5 ∧
    clip.cell 1 0 0 = .air ∧ clip.cell 2 0 0 = .air ∧ "mud" ∈ names ∧
    (notices.toList.filter fun n => n.severity = .warn) =
      [⟨.warn, s!"plot.schem: skipped {names.length} unmapped block type(s): " ++
        ", ".intercalate names⟩] := by
  obtain ⟨reg, hbuild, hunknown, hstone, hmud⟩ := RegistryConfig.quarry_build
  obtain ⟨hexact, -⟩ := fragments_are_cell_exact reg Schematic.heap.view
    ⟨by decide, by decide, by decide⟩
  obtain ⟨clip, names, hshows, -, hreports, hload⟩ :=
    hexact (SchematicView.hasRoom_of_lt (by decide) (by decide) (by decide))
  obtain ⟨notices, hrun, hwarnings⟩ := hload _ _ FileTree.presents_heap
  obtain ⟨hblock, htag⟩ := (hshows.shown 0 0 0 (by decide) _ rfl).known (by decide) _ hstone
  have hname : "mud" ∈ names := (hreports.2 "mud").mpr
    ⟨2, 0, 0, _, by decide, rfl, by decide, hmud, hunknown, by decide⟩
  rw [if_neg (List.ne_nil_of_mem hname)] at hwarnings
  refine ⟨reg, clip, names, notices, hbuild, hrun, hblock, (htag 5).mpr ⟨"5", by decide⟩, ?_, ?_,
    hname, hwarnings⟩
  · exact (hshows.shown 1 0 0 (by decide) _ rfl).opened (by decide)
  · exact (hshows.shown 2 0 0 (by decide) _ rfl).unmapped (by decide) hmud hunknown

end PlotGrid
