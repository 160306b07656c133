import PlotGrid.Proofs.Registry.Codec

/-!
# Changes of values

Changing the value of a property is a lawful update of a state, whatever the state holds: also a
number past the list, and bits that belong to no field. A field with one value or none has no bits
to change, and of a value that is listed twice the first place counts.

- `StateField.put_put`, `StateField.put_comm`: two writes of numbers.
- `BlockType.withValue_withValue`, `BlockType.withValue_comm`: two changes of values.
- `BlockType.LawfulUpdates`: the laws, one by one.
- `value_updates_are_lawful`: they hold for all types of a registry.
-/

namespace PlotGrid

namespace StateField

variable {f g : StateField} {s : UInt16} {m n i : Nat}

/-- Fields that stand apart have no bit in common. -/
theorem Apart.not_holds (hapart : f.Apart g) (hf : f.Holds i) : ¬ g.Holds i := by
  obtain ⟨hlo, hhi⟩ := hf
  rintro ⟨hlo', hhi'⟩
  rcases hapart with h | h <;> omega

/-- Of two writes to a field the later one counts. -/
theorem put_put (hfits : f.offset + f.bits ≤ Registry.stateBits) (hm : m < 2 ^ f.bits)
    (hn : n < 2 ^ f.bits) : f.put (f.put s m) n = f.put s n := by
  refine UInt16.toNat_inj.mp (Nat.eq_of_testBit_eq fun i => ?_)
  rw [testBit_put hfits hn, testBit_put hfits hn, testBit_put hfits hm]
  by_cases hi : f.Holds i
  · rw [if_pos hi, if_pos hi]
  · rw [if_neg hi, if_neg hi, if_neg hi]

/-- Writes to fields that stand apart commute. -/
theorem put_comm (hf : f.offset + f.bits ≤ Registry.stateBits) (hm : m < 2 ^ f.bits)
    (hg : g.offset + g.bits ≤ Registry.stateBits) (hn : n < 2 ^ g.bits) (hapart : f.Apart g) :
    g.put (f.put s m) n = f.put (g.put s n) m := by
  refine UInt16.toNat_inj.mp (Nat.eq_of_testBit_eq fun i => ?_)
  rw [testBit_put hg hn, testBit_put hf hm, testBit_put hf hm, testBit_put hg hn]
  by_cases hi : f.Holds i
  · rw [if_neg (hapart.not_holds hi), if_pos hi, if_pos hi]
  · rw [if_neg hi, if_neg hi]

end StateField

namespace BlockType

variable {t : BlockType} {s : UInt16} {prop prop' value value' : String}

/-- A listed value is written as a number that the field of its property can hold. -/
theorem withValue_eq_put (ht : Layout.Sound t.fields) (h : value ∈ t.listed prop) :
    ∃ f ∈ t.fields, f.name = prop ∧ ∃ n, n < 2 ^ f.bits ∧
      ∀ s, t.withValue s prop value = f.put s n := by
  obtain ⟨f, n, hf, hvalue, hput⟩ := withValue_of_listed h
  obtain ⟨hmem, hname⟩ := mem_of_field? hf
  obtain ⟨hlt, -⟩ := List.getElem?_eq_some_iff.mp hvalue
  exact ⟨f, hmem, hname, n, (ht.field f hmem).lt_two_pow hlt, hput⟩

/-- **Of two changes of a property the later one counts**, if its value is listed. -/
theorem withValue_withValue (ht : Layout.Sound t.fields) (h : value' ∈ t.listed prop) :
    t.withValue (t.withValue s prop value) prop value' = t.withValue s prop value' := by
  by_cases hlisted : value ∈ t.listed prop
  · obtain ⟨f, hf, hname, m, hm, hput⟩ := withValue_eq_put ht hlisted
    obtain ⟨g, hg, hname', n, hn, hput'⟩ := withValue_eq_put ht h
    -- one property has one field
    obtain rfl := ht.eq_of_name_eq hf hg (hname.trans hname'.symm)
    rw [hput, hput', hput', StateField.put_put (ht.field f hf).fits hm hn]
  · rw [withValue_of_not_listed hlisted]

/-- **Changes of different properties commute.** -/
theorem withValue_comm (ht : Layout.Sound t.fields) (hne : prop ≠ prop') :
    t.withValue (t.withValue s prop value) prop' value' =
      t.withValue (t.withValue s prop' value') prop value := by
  by_cases hlisted : value ∈ t.listed prop
  · by_cases hlisted' : value' ∈ t.listed prop'
    · obtain ⟨f, hf, rfl, m, hm, hput⟩ := withValue_eq_put ht hlisted
      obtain ⟨g, hg, rfl, n, hn, hput'⟩ := withValue_eq_put ht hlisted'
      have hapart := (ht.differs hf hg fun heq => hne (congrArg StateField.name heq)).2
      rw [hput, hput', hput', hput,
        StateField.put_comm (ht.field f hf).fits hm (ht.field g hg).fits hn hapart]
    · rw [withValue_of_not_listed hlisted', withValue_of_not_listed hlisted']
  · rw [withValue_of_not_listed hlisted, withValue_of_not_listed hlisted]

/-- The laws of changing the value of one property of a state, over all states. -/
structure LawfulUpdates (t : BlockType) : Prop where
  /-- A listed value is read back. -/
  read : ∀ s prop value, value ∈ t.listed prop →
    t.value? (t.withValue s prop value) prop = some value
  /-- Every other property reads as before, also one whose number stands for no value. -/
  others : ∀ s prop value prop', prop ≠ prop' →
    t.value? (t.withValue s prop value) prop' = t.value? s prop'
  /-- The bits outside of the property's field stay. -/
  bits : ∀ s prop value i, (∀ f, t.field? prop = some f → ¬ f.Holds i) →
    (t.withValue s prop value).toNat.testBit i = s.toNat.testBit i
  /-- A property that the type does not have, or a value that is not listed, changes nothing. -/
  unlisted : ∀ s prop value, value ∉ t.listed prop → t.withValue s prop value = s
  /-- Changes of different properties commute. -/
  commute : ∀ s prop value prop' value', prop ≠ prop' →
    t.withValue (t.withValue s prop value) prop' value' =
      t.withValue (t.withValue s prop' value') prop value
  /-- A second change to a listed value overrides the first. -/
  override : ∀ s prop value value', value' ∈ t.listed prop →
    t.withValue (t.withValue s prop value) prop value' = t.withValue s prop value'

end BlockType

/-- **Changing a value is a lawful update** of every state, for every type of a registry. -/
theorem value_updates_are_lawful {cfg : RegistryConfig} {reg : Registry}
    (hbuild : Registry.build cfg = .ok reg) {t : BlockType} (ht : t ∈ reg.types) :
    t.LawfulUpdates := by
  have ht := Registry.sound_of_mem hbuild ht
  constructor
  case read =>
    intro s prop value hlisted
    rw [BlockType.value?_withValue ht, if_pos ⟨rfl, hlisted⟩]
  case others =>
    intro s prop value prop' hne
    rw [BlockType.value?_withValue ht, if_neg fun h => hne h.1]
  case bits => exact fun s prop value i hi => BlockType.testBit_withValue ht hi
  case unlisted => exact fun s prop value hlisted => BlockType.withValue_of_not_listed hlisted
  case commute => exact fun s prop value prop' value' hne => BlockType.withValue_comm ht hne
  case override => exact fun s prop value value' h => BlockType.withValue_withValue ht h

/-- A lamp whose charge is past the list, with bits that belong to no field. -/
theorem value_updates_of_lamp : ∃ reg, Registry.build .lamp = .ok reg ∧
    BlockType.lamp ∈ reg.types ∧ BlockType.lamp.value? 0xFFFF "charge" = none ∧
    BlockType.lamp.value? (BlockType.lamp.withValue 0xFFFF "charge" "low") "charge" = some "low" ∧
    BlockType.lamp.value? (BlockType.lamp.withValue 0xFFFF "lit" "false") "charge" = none ∧
    (BlockType.lamp.withValue 0xFFFF "charge" "low").toNat.testBit 2 = true ∧
    BlockType.lamp.withValue 0xFFFF "charge" "empty" = 0xFFFF := by
  obtain ⟨reg, hbuild, hget, -⟩ := RegistryConfig.lamp_build
  have hmem := Array.mem_of_getElem? hget
  have hlaws := value_updates_are_lawful hbuild hmem
  refine ⟨reg, hbuild, hmem, by decide, hlaws.read _ _ _ (by decide), ?_, ?_,
    hlaws.unlisted _ _ _ (by decide)⟩
  · rw [hlaws.others _ _ _ _ (by decide)]
    decide
  · rw [hlaws.bits _ _ _ _ fun f hf => ?_]
    · decide
    · obtain rfl : ⟨"charge", ["none", "low", "full"], 2, 0⟩ = f :=
        Option.some.inj ((by decide : some _ = BlockType.lamp.field? "charge").trans hf)
      decide

end PlotGrid
