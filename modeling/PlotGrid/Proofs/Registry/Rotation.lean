import Mathlib.Logic.Function.Iterate
import PlotGrid.Proofs.Fragment.Cells
import PlotGrid.Proofs.Registry.Codec
import PlotGrid.Proofs.Registry.Turn

/-!
# Rotation in tag and state

The rotation of a voxel is told twice: by its tag, and by a value in the state of its block. Both
are taken from the same text, but on two ways, and both are turned, but by two rules. They tell the
same index from the beginning, and a turn moves both by three quarters of the rose, so they never
drift apart.

- `BlockType.ListsRotations`: a type that lists all rotation indices, in any order.
- `Registry.Aligned`: a voxel whose tag and state tell one rotation index.
- `Registry.Aligned.turn`, `Registry.Aligned.iterate`: what one turn and any number of turns do.
- `Registry.exists_aligned_of_key`: the voxel of a key.
- `rotation_stays_aligned`: the voxel of a key after any number of turns.
-/

namespace PlotGrid

/-- The numerals of all rotation indices are among the values of the property `rotation`. -/
def BlockType.ListsRotations (t : BlockType) : Prop :=
  ∀ r < 16, toString r ∈ t.listed "rotation"

instance (t : BlockType) : Decidable t.ListsRotations :=
  inferInstanceAs (Decidable (∀ r < 16, _))

/-- A turn of a type that lists all rotation indices writes a listed one. -/
theorem BlockType.ListsRotations.staysListed {t : BlockType} {s : UInt16}
    (hlists : t.ListsRotations) : rotationRewrite.StaysListed t s := by
  intro value turned _ hturned
  obtain ⟨r, -, -, rfl⟩ := lt_of_turnedRotation hturned
  exact hlists _ (Nat.mod_lt _ (by decide))

namespace Registry

/-- A voxel of a type whose tag and whose state tell the same rotation index. -/
structure Aligned (reg : Registry) (t : BlockType) (r : Nat) (v : Voxel) : Prop where
  type : reg.get? v.block.id = some t
  index : r < 16
  tag : v.rot = some (.ofNat r)
  state : t.value? v.block.state "rotation" = some (toString r)

variable {reg : Registry} {t : BlockType} {id : BlockId} {r : Nat} {v : Voxel} {key : String}

/-- **A turn moves tag and state by three quarters of the rose.** -/
theorem Aligned.turn (h : reg.Aligned t r v) (ht : Layout.Sound t.fields)
    (hlists : t.ListsRotations) : reg.Aligned t ((r + 12) % 16) (reg.turn v) := by
  obtain ⟨⟨id, s⟩, rot⟩ := v
  obtain ⟨htype, hr, rfl, hstate⟩ := h
  rw [turn_of_get? htype]
  have hnext : (r + 12) % 16 < 16 := Nat.mod_lt _ (by decide)
  refine ⟨htype, hnext, congrArg some ?_, ?_⟩
  · have htag := toNat_tag hr
    refine UInt8.toNat_inj.mp ?_
    rw [turnedTag_of_lt (by rwa [htag]), htag, toNat_tag hnext]
  · have hturn := BlockType.value?_turn_own ht (BlockType.mem_ownRewrites_iff.mpr (.inr (.inr rfl)))
      (hlists.staysListed (s := s))
    have hbefore : t.value? s BlockType.rotationRewrite.target = some (toString r) := hstate
    rw [hbefore, Option.map_some, BlockType.shift_rotation hr] at hturn
    exact hturn

/-- **Any number of turns moves tag and state alike.** -/
theorem Aligned.iterate (h : reg.Aligned t r v) (ht : Layout.Sound t.fields)
    (hlists : t.ListsRotations) (k : Nat) :
    reg.Aligned t ((r + 12 * k) % 16) (reg.turn^[k] v) := by
  induction k with
  | zero =>
    rw [Nat.mul_zero, Nat.add_zero, Nat.mod_eq_of_lt h.index]
    exact h
  | succ k ih =>
    have hindex : (r + 12 * (k + 1)) % 16 = ((r + 12 * k) % 16 + 12) % 16 := by omega
    rw [Function.iterate_succ_apply', hindex]
    exact ih.turn ht hlists

/-- Turns keep the type. -/
theorem id_iterate (reg : Registry) (v : Voxel) (k : Nat) :
    (reg.turn^[k] v).block.id = v.block.id := by
  induction k with
  | zero => rfl
  | succ k ih => rw [Function.iterate_succ_apply', id_turn, ih]

/-- Turns keep the values that say nothing about orientation. -/
theorem value?_iterate (ht : Layout.Sound t.fields) (htype : reg.get? v.block.id = some t)
    {prop : String} (hprop : prop ∉ BlockType.oriented) (k : Nat) :
    t.value? (reg.turn^[k] v).block.state prop = t.value? v.block.state prop := by
  induction k with
  | zero => rfl
  | succ k ih =>
    rw [Function.iterate_succ_apply', ← ih]
    have hget := htype
    rw [← id_iterate reg v k] at hget
    generalize reg.turn^[k] v = w at hget ⊢
    obtain ⟨⟨id, s⟩, rot⟩ := w
    rw [turn_of_get? hget]
    exact BlockType.value?_turn_of_not_mem ht fun hmem => hprop (t.targets_subset hmem)

/-- The block of a key that gives a property: its state is packed from the pairs of the key. -/
theorem blockOfKey?_of_pair (hget : reg.get? id = some t)
    (hid : reg.idOf? (stripNamespace (BlockKey.parse key).base) = some id) {prop value : String}
    (hpair : (BlockKey.parse key).props[prop]? = some value) :
    reg.blockOfKey? key = some ⟨id, t.pack (BlockKey.parse key).props⟩ := by
  have hsome : (BlockKey.parse key).props.isEmpty = false := by
    refine Std.TreeMap.isEmpty_eq_false_iff_exists_mem.mpr ⟨prop, ?_⟩
    rw [Std.TreeMap.mem_iff_isSome_getElem?, hpair]
    rfl
  rw [blockOfKey?, hsome, if_neg Bool.false_ne_true, blockOf?, hid, Option.map_some, hget]

/-- **The two readings of a rotation agree**: a key that gives a rotation index gives it to the tag
and to the state. -/
theorem exists_aligned_of_key (ht : Layout.Sound t.fields) (hlists : t.ListsRotations)
    (hget : reg.get? id = some t)
    (hid : reg.idOf? (stripNamespace (BlockKey.parse key).base) = some id) (hr : r < 16)
    (hpair : (BlockKey.parse key).props["rotation"]? = some (toString r)) :
    ∃ v, reg.voxelOfKey? key = some v ∧ v.block.id = id ∧ reg.Aligned t r v := by
  have hblock : reg.blockOfKeyOrUnknown? key =
      some ⟨id, t.pack (BlockKey.parse key).props⟩ := by
    rw [blockOfKeyOrUnknown?, blockOfKey?_of_pair hget hid hpair]
  obtain ⟨⟨block, rot⟩, hvoxel, rfl, htag⟩ := SchematicBlock.exists_voxelOfKey? hblock
  refine ⟨_, hvoxel, rfl, hget, hr, ?_, ?_⟩
  · obtain ⟨hnumeral, -⟩ := Option.filter_eq_some_iff.mp (BlockType.rotation?_toString hr)
    refine (htag (.ofNat r)).mpr ⟨toString r, hpair, ?_⟩
    rw [toNat_tag hr]
    exact ⟨hnumeral, hr⟩
  · obtain ⟨f, hf, hvalue⟩ := BlockType.mem_listed_iff.mp (hlists r hr)
    obtain ⟨hmem, hname⟩ := BlockType.mem_of_field? hf
    rw [← hname] at hpair
    show t.value? (t.pack (BlockKey.parse key).props) "rotation" = _
    rw [← hname, BlockType.value?_pack ht hmem, hpair, Option.filter_some,
      if_pos (decide_eq_true hvalue), Option.some_or]

end Registry

/-- **Tag and state never drift apart.** Let a type of a registry list the numerals of all rotation
indices, in any order and among any other properties. A key of the type with a rotation index gives
a voxel with that index as its tag and as a value of its state. After any number `k` of quarter
turns both tell that index plus `12 * k`, around the rose, and each property that does not say
anything about orientation has the value of the key's voxel. -/
theorem rotation_stays_aligned {cfg : RegistryConfig} {reg : Registry}
    (hbuild : Registry.build cfg = .ok reg) {id : BlockId} {t : BlockType}
    (hget : reg.get? id = some t) (hlists : t.ListsRotations) {key : String}
    (hid : reg.idOf? (stripNamespace (BlockKey.parse key).base) = some id) {r : Nat} (hr : r < 16)
    (hpair : (BlockKey.parse key).props["rotation"]? = some (toString r)) :
    ∃ v, reg.voxelOfKey? key = some v ∧ v.block.id = id ∧
      v.rot = some (.ofNat r) ∧ t.value? v.block.state "rotation" = some (toString r) ∧
      ∀ k, let w := reg.turn^[k] v
        w.block.id = id ∧ w.rot.map UInt8.toNat = some ((r + 12 * k) % 16) ∧
        t.value? w.block.state "rotation" = some (toString ((r + 12 * k) % 16)) ∧
        ∀ prop, prop ∉ BlockType.oriented →
          t.value? w.block.state prop = t.value? v.block.state prop := by
  have ht := Registry.sound_of_get? hbuild hget
  obtain ⟨v, hkey, hv, haligned⟩ := Registry.exists_aligned_of_key ht hlists hget hid hr hpair
  refine ⟨v, hkey, hv, haligned.tag, haligned.state, fun k => ?_⟩
  have hturned := haligned.iterate ht hlists k
  refine ⟨(Registry.id_iterate reg v k).trans hv, ?_, hturned.state, ?_⟩
  · rw [hturned.tag, Option.map_some, toNat_tag hturned.index]
  · exact fun prop hprop => Registry.value?_iterate ht haligned.type hprop k

/-- The properties of a sign, with the rotation indices out of order. -/
def Schema.sign : Schema :=
  .ofList [("facing", ["north", "south"]), ("lit", ["false", "true"]),
    ("rotation", ["8", "15", "0", "3", "12", "1", "6", "10", "2", "14", "4", "9", "13", "5", "7",
      "11"])]

/-- A registry of one sign, behind a gap. -/
def RegistryConfig.sign : RegistryConfig :=
  ⟨[⟨"sign", some 2, .sign⟩], [], none⟩

/-- The type of the sign. -/
def BlockType.sign : BlockType :=
  ⟨2, "sign", Layout.ofSchema .sign⟩

/-- A lit sign with the index 13, turned three times. -/
theorem rotation_of_sign_stays_aligned : ∃ reg v, Registry.build .sign = .ok reg ∧
    reg.voxelOfKey? "minecraft:sign[rotation=13,lit=true]" = some v ∧ v.rot = some 13 ∧
    (reg.turn^[3] v).rot.map UInt8.toNat = some 1 ∧
    BlockType.sign.value? (reg.turn^[3] v).block.state "rotation" = some "1" ∧
    BlockType.sign.value? (reg.turn^[3] v).block.state "lit" =
      BlockType.sign.value? v.block.state "lit" := by
  have hbuild : ∃ reg, Registry.build .sign = .ok reg ∧ reg.get? 2 = some .sign ∧
      reg.idOf? "sign" = some 2 := ⟨_, rfl, rfl, Std.HashMap.getElem?_insert_self⟩
  obtain ⟨reg, hbuild, hget, hid⟩ := hbuild
  have hbase : stripNamespace (BlockKey.parse "minecraft:sign[rotation=13,lit=true]").base =
      "sign" := by decide
  have hrotation : (BlockKey.parse "minecraft:sign[rotation=13,lit=true]").props["rotation"]? =
      some (toString 13) := by decide
  rw [← hbase] at hid
  obtain ⟨v, hkey, -, htag, -, hturned⟩ :=
    rotation_stays_aligned hbuild hget (by decide) hid (by decide) hrotation
  obtain ⟨-, htag', hstate, hkeep⟩ := hturned 3
  exact ⟨reg, v, hbuild, hkey, htag, htag', hstate, hkeep "lit" (by decide)⟩

end PlotGrid
