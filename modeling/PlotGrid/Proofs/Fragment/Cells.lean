import PlotGrid.Fragment.Load
import PlotGrid.Proofs.Fragment.Box

/-!
# The cells of a schematic

A clip shows at each cell what the registry makes of the block of that cell, and of no other. The
names that are reported are those of the cells that nothing is made of.

- `SchematicBlock.ShownAs`, `SchematicBlock.shownAs_voxel?`: the voxel that is made of a block.
- `SchematicBlock.ShownAs.unique`: nothing else than the block counts.
- `SchematicView.Inside`, `SchematicView.shown`: a cell of the box, and what is made of it.
- `SchematicView.leftOut?_eq_some_iff`: the cells that nothing is made of, and their names.
- `Clip.ShowsExactly`: a clip that shows all cells.
-/

namespace PlotGrid

/-! ## Blocks -/

/-- A rotation index is read back from its tag. -/
theorem toNat_tag {r : Nat} (hr : r < 16) : (UInt8.ofNat r).toNat = r := by
  rw [UInt8.toNat_ofNat']
  omega

namespace SchematicBlock

variable {reg : Registry} {b : SchematicBlock}

/-- The voxel that is made of a block, if any is. -/
def voxel? (reg : Registry) (b : SchematicBlock) : Option Voxel :=
  if b.isOpen then some .air else reg.voxelOfKey? b.key

/-- The rotation tag of a voxel is the rotation index in a key, if there is one. -/
def TagOf (key : String) (v : Voxel) : Prop :=
  ∀ r, v.rot = some r ↔ ∃ text, (BlockKey.parse key).props["rotation"]? = some text ∧
    Text.natural? text.toList = some r.toNat ∧ r.toNat < 16

/-- **The voxel that is made of a block.** An open cell is air. A block that the registry knows is
that block, any other one is the block for the unknown, both with the rotation index of the key; and
if there is none for the unknown, the cell stays air. -/
structure ShownAs (reg : Registry) (b : SchematicBlock) (v : Voxel) : Prop where
  opened : b.isOpen = true → v = .air
  known : b.isOpen = false → ∀ block, reg.blockOfKey? b.key = some block →
    v.block = block ∧ TagOf b.key v
  unknown : b.isOpen = false → reg.blockOfKey? b.key = none → ∀ id, reg.unknown = some id →
    v.block = ⟨id, 0⟩ ∧ TagOf b.key v
  unmapped : b.isOpen = false → reg.blockOfKey? b.key = none → reg.unknown = none → v = .air

/-- The voxel of a key has the block that the registry gives for it, and the tag of the key. -/
theorem exists_voxelOfKey? {key : String} {block : Block}
    (h : reg.blockOfKeyOrUnknown? key = some block) :
    ∃ v, reg.voxelOfKey? key = some v ∧ v.block = block ∧ TagOf key v := by
  refine ⟨_, by rw [Registry.voxelOfKey?, h, Option.map_some], rfl, fun r => ?_⟩
  simp only [Option.map_eq_some_iff, Option.bind_eq_some_iff, Text.rotation?,
    Option.filter_eq_some_iff, decide_eq_true_eq]
  constructor
  · rintro ⟨n, ⟨text, htext, hn, hlt⟩, rfl⟩
    rw [toNat_tag hlt]
    exact ⟨text, htext, hn, hlt⟩
  · rintro ⟨text, htext, hr, hlt⟩
    exact ⟨r.toNat, ⟨text, htext, hr, hlt⟩, UInt8.ofNat_toNat⟩

theorem voxel?_of_isOpen (h : b.isOpen = true) : b.voxel? reg = some .air :=
  if_pos h

theorem voxel?_of_not_isOpen (h : b.isOpen = false) : b.voxel? reg = reg.voxelOfKey? b.key :=
  if_neg (Bool.eq_false_iff.mp h)

/-- Nothing is made of a block iff it is not open, the registry does not know it, and has nothing
for the unknown. -/
theorem voxel?_eq_none_iff : b.voxel? reg = none ↔
    b.isOpen = false ∧ reg.blockOfKey? b.key = none ∧ reg.unknown = none := by
  cases hopen : b.isOpen with
  | true => simp [voxel?_of_isOpen hopen]
  | false =>
    rw [voxel?_of_not_isOpen hopen, Registry.voxelOfKey?, Option.map_eq_none_iff,
      Registry.blockOfKeyOrUnknown?]
    cases reg.blockOfKey? b.key <;> simp

theorem shownAs_voxel? (reg : Registry) (b : SchematicBlock) :
    b.ShownAs reg ((b.voxel? reg).getD .air) where
  opened hopen := by rw [voxel?_of_isOpen hopen, Option.getD_some]
  known hopen block hblock := by
    have hknown : reg.blockOfKeyOrUnknown? b.key = some block := by
      rw [Registry.blockOfKeyOrUnknown?, hblock]
    obtain ⟨v, hv, hshown⟩ := exists_voxelOfKey? hknown
    rw [voxel?_of_not_isOpen hopen, hv, Option.getD_some]
    exact hshown
  unknown hopen hblock id hid := by
    have hunknown : reg.blockOfKeyOrUnknown? b.key = some ⟨id, 0⟩ := by
      rw [Registry.blockOfKeyOrUnknown?, hblock, hid, Option.map_some]
    obtain ⟨v, hv, hshown⟩ := exists_voxelOfKey? hunknown
    rw [voxel?_of_not_isOpen hopen, hv, Option.getD_some]
    exact hshown
  unmapped hopen hblock hid := by
    rw [voxel?_eq_none_iff.mpr ⟨hopen, hblock, hid⟩, Option.getD_none]

/-- **Two voxels that are made of one block are equal.** -/
theorem ShownAs.unique {v v' : Voxel} (h : b.ShownAs reg v) (h' : b.ShownAs reg v') : v = v' := by
  have htag (ht : TagOf b.key v) (ht' : TagOf b.key v') : v.rot = v'.rot :=
    Option.ext fun r => (ht r).trans (ht' r).symm
  have hvoxel {block : Block} (hv : v.block = block ∧ TagOf b.key v)
      (hv' : v'.block = block ∧ TagOf b.key v') : v = v' := by
    obtain ⟨vblock, vrot⟩ := v
    obtain ⟨vblock', vrot'⟩ := v'
    have hblock : vblock = vblock' := hv.1.trans hv'.1.symm
    rw [hblock, show vrot = vrot' from htag hv.2 hv'.2]
  cases hopen : b.isOpen with
  | true => rw [h.opened hopen, h'.opened hopen]
  | false =>
    cases hknown : reg.blockOfKey? b.key with
    | some block => exact hvoxel (h.known hopen _ hknown) (h'.known hopen _ hknown)
    | none =>
      cases hunknown : reg.unknown with
      | some id =>
        exact hvoxel (h.unknown hopen hknown _ hunknown) (h'.unknown hopen hknown _ hunknown)
      | none => rw [h.unmapped hopen hknown hunknown, h'.unmapped hopen hknown hunknown]

/-- The name that is reported for a block that nothing is made of. -/
def leftOut? (reg : Registry) (b : SchematicBlock) : Option String :=
  if (b.voxel? reg).isNone then some (stripNamespace (BlockKey.parse b.key).base) else none

end SchematicBlock

/-! ## Cells -/

namespace SchematicView

variable {reg : Registry} {s : SchematicView} {x y z : Nat} {p : Nat × Nat × Nat} {name : String}

/-- The edges of the box are coordinates, and none of them is below zero. -/
structure IsBox (s : SchematicView) : Prop where
  width : 0 ≤ s.width ∧ Coord.InRange s.width
  height : 0 ≤ s.height ∧ Coord.InRange s.height
  length : 0 ≤ s.length ∧ Coord.InRange s.length

/-- A cell of the box. -/
def Inside (s : SchematicView) (p : Nat × Nat × Nat) : Prop :=
  p.1 < s.width.toNat ∧ p.2.1 < s.height.toNat ∧ p.2.2 < s.length.toNat

instance (s : SchematicView) (p : Nat × Nat × Nat) : Decidable (s.Inside p) :=
  inferInstanceAs (Decidable (_ ∧ _ ∧ _))

theorem mem_places_iff : p ∈ s.places ↔ s.Inside p := by
  obtain ⟨x, y, z⟩ := p
  simp [places, Inside]

/-- The voxel that is made of a cell. -/
def shown (reg : Registry) (s : SchematicView) (p : Nat × Nat × Nat) : Voxel :=
  ((s.block? p.1 p.2.1 p.2.2).bind fun b => b.voxel? reg).getD .air

/-- The name that is reported for a cell. -/
def leftOut? (reg : Registry) (s : SchematicView) (p : Nat × Nat × Nat) : Option String :=
  (s.block? p.1 p.2.1 p.2.2).bind fun b => b.leftOut? reg

theorem shown_of_none (h : s.block? x y z = none) : s.shown reg (x, y, z) = .air := by
  simp [shown, h]

theorem shown_of_some {b : SchematicBlock} (h : s.block? x y z = some b) :
    s.shown reg (x, y, z) = (b.voxel? reg).getD .air := by
  simp [shown, h]

theorem leftOut?_of_none (h : s.block? x y z = none) : s.leftOut? reg (x, y, z) = none := by
  simp [leftOut?, h]

theorem leftOut?_of_some {b : SchematicBlock} (h : s.block? x y z = some b) :
    s.leftOut? reg (x, y, z) = b.leftOut? reg := by
  simp [leftOut?, h]

/-- **The cells that nothing is made of**, and the names that are reported for them. -/
theorem leftOut?_eq_some_iff :
    s.leftOut? reg (x, y, z) = some name ↔ ∃ b, s.block? x y z = some b ∧ b.isOpen = false ∧
      reg.blockOfKey? b.key = none ∧ reg.unknown = none ∧
      stripNamespace (BlockKey.parse b.key).base = name := by
  simp only [leftOut?, SchematicBlock.leftOut?, Option.bind_eq_some_iff, Option.isNone_iff_eq_none,
    Option.ite_none_right_eq_some, Option.some.injEq, SchematicBlock.voxel?_eq_none_iff, and_assoc]

end SchematicView

/-! ## Clips -/

/-- **A clip shows a schematic** in a box with its edges: each cell what is made of its own block,
and air where it has none. -/
structure Clip.ShowsExactly (c : Clip) (reg : Registry) (s : SchematicView) : Prop where
  edges : c.width = s.width ∧ c.height = s.height ∧ c.length = s.length
  empty : ∀ x y z, s.Inside (x, y, z) → s.block? x y z = none → c.cell x y z = .air
  shown : ∀ x y z, s.Inside (x, y, z) → ∀ b, s.block? x y z = some b →
    b.ShownAs reg (c.cell x y z)
  /-- A schematic has no biomes. -/
  plain : ∀ tag ∈ c.biomes.toList, tag = none

/-- **No cell is affected by any other cell**: clips of schematics that show one block in a cell
show one voxel there. -/
theorem Clip.ShowsExactly.cell_eq {c c' : Clip} {reg : Registry} {s s' : SchematicView}
    (h : c.ShowsExactly reg s) (h' : c'.ShowsExactly reg s') {x y z : Nat}
    (hin : s.Inside (x, y, z)) (hin' : s'.Inside (x, y, z))
    (hblock : s'.block? x y z = s.block? x y z) : c'.cell x y z = c.cell x y z := by
  cases hb : s.block? x y z with
  | none => rw [h.empty x y z hin hb, h'.empty x y z hin' (hblock.trans hb)]
  | some b => exact (h'.shown x y z hin' b (hblock.trans hb)).unique (h.shown x y z hin b hb)

end PlotGrid
