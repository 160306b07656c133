import Mathlib.Data.Finset.Card
import Mathlib.Data.List.Nodup
import PlotGrid.Chunk.Export
import PlotGrid.Proofs.Chunk.History
import PlotGrid.Proofs.Chunk.Index

/-!
# Sections of a buffer

The voxels of a buffer go to different cells of its sections: the layer of a height and its place
within the layer tell the height, and the columns of one chunk are told by their own place. So the
sections show what the buffer shows, hold as many voxels, and exist where there is one.

- `ChunkSections.slot`, `ChunkSections.slot_inj`: the section and the cell that a voxel goes to.
- `ChunkSections.read?`, `ChunkSections.read?_enter`, `ChunkSections.read?_foldl_iff`: the cells
  of a stack of sections, and what one voxel and a list of voxels do to them.
- `ChunkSections.cellList`, `ChunkSections.voxelCount`: all cells of all sections.
- `Buffer.stack`, `Buffer.read?_stack_iff`, `Buffer.cellList_stack_perm`, `Buffer.card_layers`: the
  sections of a buffer.
- `sections_show_buffer`: the export of a buffer that started out new.
-/

namespace PlotGrid

namespace ChunkSections

/-- The sections of a stack, each with its cells; absent ones are not there. -/
abbrev Stack := Array (Option (Array (Option Voxel)))

/-- The section and the cell of it that a voxel goes to. -/
def slot (lowest : Int) (cell : Nat × Int × Nat × Voxel) : Nat × Nat :=
  ((Section.layer cell.2.1 - lowest).toNat, Section.index cell.1 cell.2.1 cell.2.2.1)

/-- The voxel in a cell of a section. -/
def read? (s : Stack) (i j : Nat) : Option Voxel :=
  s[i]?.join.bind fun held => held[j]?.join

/-- The sections that exist have all their cells. -/
def Whole (s : Stack) : Prop :=
  ∀ (i : Nat) (held : Array (Option Voxel)), s[i]? = some (some held) → held.size = Section.volume

/-- The number of voxels of all sections. -/
def voxelCount (c : ChunkSections) : Nat :=
  (c.sections.toList.map fun held =>
    (held.map fun cells => cells.toList.countP Option.isSome).getD 0).sum

/-! ## Slots -/

/-- **Heights above the lowest layer and columns of one chunk are told by their slot.** -/
theorem slot_inj {lowest y y' : Int} {x z x' z' : Nat} {v v' : Voxel}
    (hx : x < 16) (hz : z < 16) (hx' : x' < 16) (hz' : z' < 16)
    (hy : lowest ≤ Section.layer y) (hy' : lowest ≤ Section.layer y')
    (h : slot lowest (x, y, z, v) = slot lowest (x', y', z', v')) :
    x = x' ∧ y = y' ∧ z = z' := by
  obtain ⟨hsection, hindex⟩ := Prod.mk.inj h
  have hlayer : y / 16 = y' / 16 := by
    simp only [Section.layer] at hsection hy hy'
    omega
  have hxs : (x : Int) % 16 = x' % 16 := by
    rw [← Section.xOf_index x y z, hindex, Section.xOf_index]
  have hzs : (z : Int) % 16 = z' % 16 := by
    rw [← Section.zOf_index x y z, hindex, Section.zOf_index]
  have hxx : x = x' := by omega
  have hzz : z = z' := by omega
  subst hxx hzz
  -- the rest of the number is the place of the height in its layer
  have hys : y % 16 = y' % 16 := by
    simp only [Section.index_eq] at hindex
    omega
  refine ⟨rfl, ?_, rfl⟩
  omega

/-! ## One voxel -/

variable {s : Stack} {lowest : Int} {cell : Nat × Int × Nat × Voxel} {i j : Nat}

theorem getElem?_enter : (enter lowest s cell)[i]? =
    if (slot lowest cell).1 = i then s[i]?.map fun held =>
      some ((held.getD (Array.replicate Section.volume none)).modify (slot lowest cell).2
        fun _ => some cell.2.2.2)
    else s[i]? := by
  obtain ⟨x, y, z, v⟩ := cell
  exact Array.getElem?_modify

@[simp] theorem size_enter : (enter lowest s cell).size = s.size := by
  obtain ⟨x, y, z, v⟩ := cell
  exact Array.size_modify

theorem whole_enter (h : Whole s) : Whole (enter lowest s cell) := by
  intro i held hheld
  rw [getElem?_enter] at hheld
  split at hheld
  · obtain ⟨before, hbefore, heq⟩ := Option.map_eq_some_iff.mp hheld
    rw [← Option.some.inj heq, Array.size_modify]
    cases before with
    | none => exact Array.size_replicate
    | some held => exact h i held hbefore
  · exact h i held hheld

/-- **A voxel changes the cell of its slot and no other.** -/
theorem read?_enter (h : Whole s) (hin : (slot lowest cell).1 < s.size) :
    read? (enter lowest s cell) i j =
      if slot lowest cell = (i, j) then some cell.2.2.2 else read? s i j := by
  unfold read?
  rw [getElem?_enter]
  by_cases hi : (slot lowest cell).1 = i
  · subst hi
    rw [if_pos rfl, Array.getElem?_eq_getElem hin, Option.map_some, Option.join_some,
      Option.join_some, Option.bind_some, Array.getElem?_modify]
    by_cases hj : (slot lowest cell).2 = j
    · subst hj
      -- the cell is one of the section, also of a section that appears now
      have hcell : (slot lowest cell).2 <
          (s[(slot lowest cell).1].getD (Array.replicate Section.volume none)).size := by
        cases hheld : s[(slot lowest cell).1] with
        | none =>
          rw [Option.getD_none, Array.size_replicate]
          exact Section.index_lt ..
        | some held =>
          rw [Option.getD_some, h _ held (Array.getElem?_eq_some_iff.mpr ⟨hin, hheld⟩)]
          exact Section.index_lt ..
      rw [if_pos rfl, if_pos rfl, Array.getElem?_eq_getElem hcell]
      rfl
    · rw [if_neg hj, if_neg fun heq => hj (congrArg Prod.snd heq)]
      cases s[(slot lowest cell).1] with
      | none =>
        rw [Option.getD_none, Array.getElem?_replicate]
        split <;> rfl
      | some held => rfl
  · rw [if_neg hi, if_neg fun heq => hi (congrArg Prod.fst heq)]

/-- A section exists after a voxel was entered if it did before or is the voxel's own. -/
theorem isSome_enter (hin : (slot lowest cell).1 < s.size) :
    (enter lowest s cell)[i]?.join.isSome ↔ (slot lowest cell).1 = i ∨ s[i]?.join.isSome := by
  rw [getElem?_enter]
  by_cases hi : (slot lowest cell).1 = i
  · subst hi
    rw [if_pos rfl, Array.getElem?_eq_getElem hin]
    simp
  · rw [if_neg hi]
    simp [hi]

/-! ## Many voxels -/

variable {cells : List (Nat × Int × Nat × Voxel)}

@[simp] theorem size_foldl : (cells.foldl (enter lowest) s).size = s.size := by
  induction cells generalizing s with
  | nil => rfl
  | cons cell rest ih => rw [List.foldl_cons, ih, size_enter]

/-- **Voxels with different slots are found in their cells**, all others stay as they were. -/
theorem read?_foldl_iff (h : Whole s) (hin : ∀ cell ∈ cells, (slot lowest cell).1 < s.size)
    (hapart : (cells.map (slot lowest)).Nodup) {v : Voxel} :
    read? (cells.foldl (enter lowest) s) i j = some v ↔
      (∃ cell ∈ cells, slot lowest cell = (i, j) ∧ cell.2.2.2 = v) ∨
        (i, j) ∉ cells.map (slot lowest) ∧ read? s i j = some v := by
  induction cells generalizing s with
  | nil => simp
  | cons cell rest ih =>
    obtain ⟨hfirst, hrest⟩ := List.nodup_cons.mp hapart
    have hin' : ∀ c ∈ rest, (slot lowest c).1 < (enter lowest s cell).size := by
      intro c hc
      rw [size_enter]
      exact hin c (List.mem_cons_of_mem cell hc)
    rw [List.foldl_cons, ih (whole_enter h) hin' hrest, read?_enter h (hin cell List.mem_cons_self),
      List.exists_mem_cons_iff, List.map_cons, List.mem_cons]
    by_cases hslot : slot lowest cell = (i, j)
    · -- the voxel is not touched again, for the others go elsewhere
      rw [hslot] at hfirst
      rw [if_pos hslot]
      simp [hslot, hfirst, or_comm]
    · have hne : (i, j) ≠ slot lowest cell := fun heq => hslot heq.symm
      simp [hslot, hne]

theorem isSome_foldl (hin : ∀ cell ∈ cells, (slot lowest cell).1 < s.size) :
    (cells.foldl (enter lowest) s)[i]?.join.isSome ↔
      (∃ cell ∈ cells, (slot lowest cell).1 = i) ∨ s[i]?.join.isSome := by
  induction cells generalizing s with
  | nil => simp
  | cons cell rest ih =>
    have hin' : ∀ c ∈ rest, (slot lowest c).1 < (enter lowest s cell).size := by
      intro c hc
      rw [size_enter]
      exact hin c (List.mem_cons_of_mem cell hc)
    rw [List.foldl_cons, ih hin', isSome_enter (hin cell List.mem_cons_self),
      List.exists_mem_cons_iff, ← or_assoc, or_comm (a := ∃ c ∈ rest, _)]

/-- The cells of a stack are listed section by section. -/
def cellList (s : Stack) : List (Nat × Nat × Voxel) :=
  nested s.toList fun held => present held.toList

theorem mem_cellList_iff {v : Voxel} : (i, j, v) ∈ cellList s ↔ read? s i j = some v := by
  rw [cellList, mem_nested_iff, Array.getElem?_toList, read?, Option.bind_eq_some_iff]
  refine exists_congr fun held => ?_
  rw [Option.join_eq_some_iff, Option.join_eq_some_iff, mem_present_iff, Array.getElem?_toList]

theorem nodup_cellList : (cellList s).Nodup := by
  have hpairwise := pairwise_nested (l := s.toList) (f := fun held => present held.toList)
    (fun held => pairwise_present)
  refine hpairwise.imp ?_
  rintro p q h rfl
  omega

/-- Sections that do not exist have no voxels. -/
theorem read?_replicate {n : Nat} : read? (Array.replicate n none) i j = none := by
  rw [read?, Array.getElem?_replicate]
  split <;> rfl

theorem whole_replicate {n : Nat} : Whole (Array.replicate n none) := by
  intro i held h
  rw [Array.getElem?_replicate] at h
  split at h
  · cases h
  · cases h

/-- Reading at a position reads the cell of its slot. -/
theorem voxel?_eq (c : ChunkSections) (x y z : Int) : c.voxel? x y z =
    if Section.layer y < c.lowest then none
    else read? c.sections (Section.layer y - c.lowest).toNat (Section.index x y z) := by
  unfold voxel? read?
  by_cases h : Section.layer y < c.lowest
  · rw [if_pos h]
    exact if_pos (by omega)
  · rw [if_neg h]
    refine (if_neg (by omega)).trans ?_
    cases c.sections[(Section.layer y - c.lowest).toNat]? with
    | none => rfl
    | some held? =>
      cases held? with
      | none => rfl
      | some held =>
        rw [Option.join_some, Option.bind_some, Option.bind_eq_bind, Option.bind_some,
          Option.bind_eq_bind, Option.bind_some]
        cases held[Section.index x y z]? <;> rfl

theorem voxelCount_eq_length (c : ChunkSections) :
    c.voxelCount = (cellList c.sections).length := by
  rw [cellList, length_nested, voxelCount]
  simp only [length_present]

theorem filled_eq_length (c : ChunkSections) :
    c.filled = ((present c.sections.toList).map Prod.fst).length := by
  rw [List.length_map, length_present, filled]

end ChunkSections

/-! ## The export -/

/-- The columns of one chunk. -/
def Frame.OneChunk (F : Frame) : Prop :=
  F.width = Section.edge ∧ F.length = Section.edge

namespace Buffer

open ChunkSections

variable {b : Buffer} {F : Frame} {x z : Nat} {y : Int} {v : Voxel}

/-- The place of a listed voxel. -/
theorem fits_of_mem_voxelList (hb : b.HasFrame F) (h : (x, y, z, v) ∈ b.voxelList) :
    F.HasColumn x z ∧ F.HasHeight y :=
  fits_of_voxel? hb ((mem_voxelList_iff hb).mp h)

/-- The layers from that of the bottom to that of the top are the sections. -/
theorem layer_of_mem_voxelList (hb : b.HasFrame F) {cell : Nat × Int × Nat × Voxel}
    (h : cell ∈ b.voxelList) :
    Section.layer F.bottom.y ≤ Section.layer cell.2.1 ∧
      (slot (Section.layer F.bottom.y) cell).1 <
        (Section.layer F.top.y - Section.layer F.bottom.y + 1).toNat := by
  obtain ⟨x, y, z, v⟩ := cell
  obtain ⟨-, hlo, hhi⟩ := fits_of_mem_voxelList hb h
  simp only [slot, Section.layer]
  omega

/-- **Voxels at different places have different slots.** -/
theorem slot_inj_of_mem (hb : b.HasFrame F) (hchunk : F.OneChunk)
    {cell : Nat × Int × Nat × Voxel} (h : cell ∈ b.voxelList) (hx : x < 16) (hz : z < 16)
    (hy : Section.layer F.bottom.y ≤ Section.layer y)
    (hslot : slot (Section.layer F.bottom.y) cell = slot (Section.layer F.bottom.y) (x, y, z, v)) :
    cell.1 = x ∧ cell.2.1 = y ∧ cell.2.2.1 = z := by
  obtain ⟨x', y', z', v'⟩ := cell
  obtain ⟨⟨hx', hz'⟩, -⟩ := fits_of_mem_voxelList hb h
  rw [hchunk.1] at hx'
  rw [hchunk.2] at hz'
  exact slot_inj hx' hz' hx hz (layer_of_mem_voxelList hb h).1 hy hslot

theorem nodup_slots (hb : b.HasFrame F) (hchunk : F.OneChunk) :
    (b.voxelList.map (slot (Section.layer F.bottom.y))).Nodup := by
  refine List.pairwise_map.mpr (b.pairwise_voxelList.imp_of_mem ?_)
  rintro cell ⟨x, y, z, v⟩ hcell hmem hbefore hslot
  obtain ⟨⟨hx, hz⟩, -⟩ := fits_of_mem_voxelList hb hmem
  rw [hchunk.1] at hx
  rw [hchunk.2] at hz
  obtain ⟨rfl, rfl, rfl⟩ :=
    slot_inj_of_mem (y := y) hb hchunk hcell hx hz (layer_of_mem_voxelList hb hmem).1 hslot
  simp only [Before] at hbefore
  omega

/-- The sections of a buffer. -/
def stack (b : Buffer) : Stack :=
  b.voxelList.foldl (enter (Section.layer b.bottom.y))
    (Array.replicate (Section.layer b.top.y - Section.layer b.bottom.y + 1).toNat none)

theorem stack_eq (hb : b.HasFrame F) : b.stack =
    b.voxelList.foldl (enter (Section.layer F.bottom.y)) (Array.replicate
      (Section.layer F.top.y - Section.layer F.bottom.y + 1).toNat none) := by
  rw [stack, hb.bottom, hb.top]

theorem layer_lt_size (hb : b.HasFrame F) {cell : Nat × Int × Nat × Voxel}
    (h : cell ∈ b.voxelList) : (slot (Section.layer F.bottom.y) cell).1 < (Array.replicate
      (Section.layer F.top.y - Section.layer F.bottom.y + 1).toNat none : Stack).size := by
  rw [Array.size_replicate]
  exact (layer_of_mem_voxelList hb h).2

/-- **The cells of the sections are the slots of the voxels.** -/
theorem read?_stack_iff (hb : b.HasFrame F) (hchunk : F.OneChunk) {i j : Nat} :
    read? b.stack i j = some v ↔
      ∃ cell ∈ b.voxelList, slot (Section.layer F.bottom.y) cell = (i, j) ∧ cell.2.2.2 = v := by
  rw [stack_eq hb, read?_foldl_iff whole_replicate (fun _ => layer_lt_size hb)
    (nodup_slots hb hchunk), read?_replicate]
  simp

/-- **A section exists if a voxel has its layer.** -/
theorem isSome_stack_iff (hb : b.HasFrame F) {i : Nat} :
    b.stack[i]?.join.isSome ↔
      ∃ cell ∈ b.voxelList, (slot (Section.layer F.bottom.y) cell).1 = i := by
  have hempty : ¬ ((Array.replicate (Section.layer F.top.y - Section.layer F.bottom.y + 1).toNat
      none : Stack)[i]?.join.isSome) := by
    rw [Array.getElem?_replicate]
    split <;> simp
  rw [stack_eq hb, isSome_foldl fun _ => layer_lt_size hb, or_iff_left hempty]

/-- The voxels by their slots are a list of all cells of the sections. -/
theorem cellList_stack_perm (hb : b.HasFrame F) (hchunk : F.OneChunk) :
    (cellList b.stack).Perm (b.voxelList.map fun cell =>
      ((slot (Section.layer F.bottom.y) cell).1, (slot (Section.layer F.bottom.y) cell).2,
        cell.2.2.2)) := by
  have hnodup := nodup_slots hb hchunk
  refine (List.perm_ext_iff_of_nodup nodup_cellList ?_).mpr ?_
  · refine List.pairwise_map.mpr ((List.pairwise_map.mp hnodup).imp ?_)
    intro cell cell' hne heq
    obtain ⟨hlayer, hrest⟩ := Prod.mk.inj heq
    exact hne (Prod.ext hlayer (Prod.mk.inj hrest).1)
  · rintro ⟨i, j, v⟩
    rw [mem_cellList_iff, read?_stack_iff hb hchunk, List.mem_map]
    simp only [Prod.ext_iff, and_assoc]

/-- The layers of all voxels, each once. -/
def layers (b : Buffer) : Finset Int :=
  (b.voxelList.map fun cell => Section.layer cell.2.1).toFinset

/-- The sections that exist are those of the layers. -/
theorem card_layers (hb : b.HasFrame F) :
    ((present b.stack.toList).map Prod.fst).length = b.layers.card := by
  have hnodup : ((present b.stack.toList).map fun entry =>
      Section.layer F.bottom.y + (entry.1 : Int)).Nodup := by
    refine List.pairwise_map.mpr (pairwise_present.imp ?_)
    intro entry entry' hlt
    omega
  rw [List.length_map, ← List.length_map (f := fun entry =>
    Section.layer F.bottom.y + (entry.1 : Int)), ← List.toFinset_card_of_nodup hnodup, layers]
  congr 1
  ext l
  rw [List.mem_toFinset, List.mem_toFinset, List.mem_map, List.mem_map]
  constructor
  · rintro ⟨⟨i, held⟩, hmem, rfl⟩
    have hsome : b.stack[i]?.join.isSome := by
      rw [← Array.getElem?_toList, mem_present_iff.mp hmem]
      rfl
    obtain ⟨cell, hcell, rfl⟩ := (isSome_stack_iff hb).mp hsome
    refine ⟨cell, hcell, ?_⟩
    have hlo := (layer_of_mem_voxelList hb hcell).1
    simp only [slot]
    omega
  · rintro ⟨cell, hcell, rfl⟩
    obtain ⟨held, hheld⟩ := Option.isSome_iff_exists.mp
      ((isSome_stack_iff hb).mpr ⟨cell, hcell, rfl⟩)
    refine ⟨((slot (Section.layer F.bottom.y) cell).1, held), ?_, ?_⟩
    · rw [mem_present_iff, Array.getElem?_toList]
      exact Option.join_eq_some_iff.mp hheld
    · have hlo := (layer_of_mem_voxelList hb hcell).1
      simp only [slot]
      omega

/-- A buffer of one chunk is exported. -/
theorem sections?_eq_ok (hb : b.HasFrame F) (hchunk : F.OneChunk) :
    b.sections? = .ok ⟨Section.layer F.bottom.y, b.stack⟩ := by
  have hwidth : b.width = Section.edge := (congrArg (·.1) hb.voxels).trans hchunk.1
  have hlength : b.length = Section.edge := (congrArg (·.2.1) hb.voxels).trans hchunk.2
  rw [sections?, if_neg (by simp [hwidth, hlength]), ← hb.bottom]
  rfl

end Buffer

/-- **The sections of a buffer show what the buffer shows.** After any list of writes to a new
buffer of one chunk, the sections give the voxel of the buffer at every place of the chunk and at
every height, within the range of heights or not; they hold as many voxels as the buffer lists,
and as many of them exist as the voxels have layers. Each voxel is entered to a section and to a
cell that are there. -/
theorem sections_show_buffer {bottom top : BlockPos} {track : Bool} {b₀ : Buffer}
    (hbottom : bottom.InRange) (htop : top.InRange)
    (hnew : Buffer.new? bottom top track = .ok b₀)
    (hwidth : b₀.width = Section.edge) (hlength : b₀.length = Section.edge)
    (calls : List Buffer.Call) :
    ∃ sections, (b₀.after calls).sections? = .ok sections ∧
      (∀ x z : Nat, x < 16 → z < 16 → ∀ y : Int,
        sections.voxel? x y z = (b₀.after calls).voxel? x y z) ∧
      sections.voxelCount = (b₀.after calls).voxelList.length ∧
      sections.filled = (b₀.after calls).layers.card ∧
      ∀ x y z v, (x, y, z, v) ∈ (b₀.after calls).voxelList →
        sections.lowest ≤ Section.layer y ∧
        (Section.layer y - sections.lowest).toNat < sections.sections.size ∧
        Section.index x y z < Section.volume := by
  have hfresh := Buffer.fresh_of_new? hbottom htop hnew
  have hb := Buffer.hasFrame_after hfresh.frame calls
  have hchunk : b₀.frame.OneChunk := ⟨hwidth, hlength⟩
  refine ⟨_, Buffer.sections?_eq_ok hb hchunk, ?_, ?_, ?_, ?_⟩
  · intro x z hx hz y
    rw [ChunkSections.voxel?_eq]
    split
    · -- below the lowest section there is nothing in the buffer either
      rename_i hlow
      refine (Option.eq_none_iff_forall_ne_some.mpr fun v hv => ?_).symm
      have hmem := (Buffer.mem_voxelList_iff hb).mpr hv
      exact absurd (Buffer.layer_of_mem_voxelList hb hmem).1 (by simpa using hlow)
    · rename_i hlow
      refine Option.ext fun v => ?_
      rw [Buffer.read?_stack_iff hb hchunk, ← Buffer.mem_voxelList_iff hb]
      constructor
      · rintro ⟨cell, hcell, hslot, rfl⟩
        obtain ⟨rfl, rfl, rfl⟩ := Buffer.slot_inj_of_mem (v := cell.2.2.2) hb hchunk hcell hx hz
          (by simpa using hlow) hslot
        exact hcell
      · exact fun hmem => ⟨_, hmem, rfl, rfl⟩
  · rw [ChunkSections.voxelCount_eq_length, (Buffer.cellList_stack_perm hb hchunk).length_eq,
      List.length_map]
  · rw [ChunkSections.filled_eq_length, Buffer.card_layers hb]
  · intro x y z v hmem
    obtain ⟨hlo, hlt⟩ := Buffer.layer_of_mem_voxelList hb hmem
    refine ⟨hlo, ?_, Section.index_lt ..⟩
    show _ < (Buffer.stack _).size
    rw [Buffer.stack_eq hb, ChunkSections.size_foldl, Array.size_replicate]
    exact hlt

/-- One chunk between heights that are no multiples of sixteen. -/
def Buffer.slab : Buffer :=
  ⟨⟨0, -3, 0⟩, ⟨15, 2, 15⟩, .empty 16 16 6, none⟩

/-- A voxel on both sides of height zero; the last write fails. -/
def Buffer.slabCalls : List Buffer.Call :=
  [.voxel 5 (-1) 7 ⟨⟨1, 0⟩, none⟩, .voxel 0 2 15 ⟨⟨2, 0⟩, none⟩, .voxel 5 3 7 ⟨⟨3, 0⟩, none⟩]

/-- The two voxels are in two sections, and the heights below and above the range are free. -/
theorem sections_show_slab : Buffer.new? ⟨0, -3, 0⟩ ⟨15, 2, 15⟩ false = .ok .slab ∧
    ∃ sections, (Buffer.slab.after Buffer.slabCalls).sections? = .ok sections ∧
      sections.voxel? 5 (-1) 7 = some ⟨⟨1, 0⟩, none⟩ ∧ sections.voxel? 5 3 7 = none ∧
      sections.voxel? 5 (-4) 7 = none ∧ sections.voxelCount = 2 ∧ sections.filled = 2 := by
  have hnew : Buffer.new? ⟨0, -3, 0⟩ ⟨15, 2, 15⟩ false = .ok .slab := rfl
  obtain ⟨sections, hsections, hvoxel, hcount, hfilled, -⟩ :=
    sections_show_buffer (by decide) (by decide) hnew rfl rfl Buffer.slabCalls
  refine ⟨hnew, sections, hsections, ?_, ?_, ?_, ?_, ?_⟩
  · exact (hvoxel 5 7 (by decide) (by decide) (-1)).trans (by decide)
  · exact (hvoxel 5 7 (by decide) (by decide) 3).trans (by decide)
  · exact (hvoxel 5 7 (by decide) (by decide) (-4)).trans (by decide)
  · exact hcount.trans (by decide)
  · exact hfilled.trans (by decide)

end PlotGrid
