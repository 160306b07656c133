import Mathlib.Algebra.GroupWithZero.Nat
import Mathlib.Data.List.Pairwise
import PlotGrid.Fault
import PlotGrid.Registry.Basic
import Std.Data.TreeMap.Lemmas

/-!
# Layout of a state

The fields of a type stand beside each other within the sixteen bits of a state. Writing the number
of one field changes the bits of that field and no others, so the numbers of all other fields
stay, and a state is told by the numbers of its fields and the bits between them.

- `StateField.Holds`, `StateField.testBit_put`: the bits of a field, and what writing does to them.
- `StateField.code_put`, `StateField.code_put_of_apart`: what is read after a write.
- `Layout.Sound`, `Layout.sound_ofSchema`: fields with different names and with bits of their own.
- `Layout.state_ext`: a state is told by its fields and the bits outside of them.
- `Registry.sound_of_mem`: all types of a registry have such fields.
-/

namespace PlotGrid

namespace StateField

variable {f g : StateField} {s : UInt16} {n i : Nat}

/-! ## One field -/

/-- The bits of a field. -/
def Holds (f : StateField) (i : Nat) : Prop :=
  f.offset ≤ i ∧ i < f.offset + f.bits

instance (f : StateField) (i : Nat) : Decidable (f.Holds i) :=
  inferInstanceAs (Decidable (_ ∧ _))

/-- A field that is no wider than its values need, within a state. -/
structure Sound (f : StateField) : Prop where
  fits : f.offset + f.bits ≤ Registry.stateBits
  bits : f.bits = width f.values.length

/-- Fields without a bit in common. -/
def Apart (f g : StateField) : Prop :=
  f.offset + f.bits ≤ g.offset ∨ g.offset + g.bits ≤ f.offset

/-- Fields of different names without a bit in common. -/
def Differs (f g : StateField) : Prop :=
  f.name ≠ g.name ∧ f.Apart g

instance : Std.Symm Differs :=
  ⟨fun _ _ h => ⟨h.1.symm, h.2.symm⟩⟩

/-- The bits of a field are enough for the numbers of its values. -/
theorem lt_two_pow_width {n : Nat} (h : i < n) : i < 2 ^ width n := by
  unfold width
  split
  · omega
  · have hlog : n - 1 < 2 ^ ((n - 1).log2 + 1) := Nat.lt_log2_self
    omega

theorem Sound.lt_two_pow (hf : f.Sound) (h : i < f.values.length) : i < 2 ^ f.bits := by
  rw [hf.bits]
  exact lt_two_pow_width h

/-- A field without values has no bits. -/
theorem Sound.code_of_nil (hf : f.Sound) (h : f.values = []) (s : UInt16) : f.code s = 0 := by
  have hbits : f.bits = 0 := by
    rw [hf.bits, h]
    rfl
  rw [code, hbits]
  exact Nat.mod_one _

theorem testBit_code :
    (f.code s).testBit i = (decide (i < f.bits) && s.toNat.testBit (f.offset + i)) := by
  rw [code, Nat.one_shiftLeft, Nat.testBit_mod_two_pow, Nat.testBit_shiftRight]

/-- A number has no bits beyond its width. -/
theorem testBit_of_lt_of_le {w : Nat} (hn : n < 2 ^ w) (h : w ≤ i) : n.testBit i = false :=
  Nat.testBit_lt_two_pow (Nat.lt_of_lt_of_le hn (Nat.pow_le_pow_right (by decide) h))

/-- **Writing a number changes the bits of the field and no others.** -/
theorem testBit_put (hfits : f.offset + f.bits ≤ Registry.stateBits) (hn : n < 2 ^ f.bits) :
    (f.put s n).toNat.testBit i =
      if f.Holds i then n.testBit (i - f.offset) else s.toNat.testBit i := by
  by_cases hi : Registry.stateBits ≤ i
  · have hbeyond (s : UInt16) : s.toNat.testBit i = false := testBit_of_lt_of_le s.toNat_lt hi
    rw [hbeyond, hbeyond, if_neg]
    rintro ⟨-, hlt⟩
    omega
  · rw [put, UInt16.toNat_ofNat', Nat.testBit_mod_two_pow, Nat.testBit_xor, Nat.testBit_shiftLeft,
      Nat.testBit_xor, testBit_code, decide_eq_true (show i < 16 from Nat.not_le.mp hi),
      Bool.true_and]
    by_cases hlo : f.offset ≤ i
    · have hback : f.offset + (i - f.offset) = i := by omega
      by_cases hhi : i < f.offset + f.bits
      · -- the old bit is flipped away by itself
        rw [if_pos ⟨hlo, hhi⟩, hback, decide_eq_true hlo, decide_eq_true (by omega)]
        simp
      · have hzero : n.testBit (i - f.offset) = false := testBit_of_lt_of_le hn (by omega)
        rw [if_neg fun h => hhi h.2, hzero, decide_eq_false (by omega : ¬ i - f.offset < f.bits)]
        simp
    · rw [if_neg fun h => hlo h.1, decide_eq_false hlo]
      simp

/-- The number that was written is read. -/
theorem code_put (hfits : f.offset + f.bits ≤ Registry.stateBits) (hn : n < 2 ^ f.bits) :
    f.code (f.put s n) = n := by
  refine Nat.eq_of_testBit_eq fun i => ?_
  rw [testBit_code, testBit_put hfits hn]
  by_cases hi : i < f.bits
  · rw [if_pos ⟨by omega, by omega⟩, decide_eq_true hi, Nat.add_sub_cancel_left, Bool.true_and]
  · rw [decide_eq_false hi, Bool.false_and]
    exact (testBit_of_lt_of_le hn (Nat.not_lt.mp hi)).symm

/-- The number of another field stays. -/
theorem code_put_of_apart (hfits : f.offset + f.bits ≤ Registry.stateBits) (hn : n < 2 ^ f.bits)
    (hapart : f.Apart g) : g.code (f.put s n) = g.code s := by
  refine Nat.eq_of_testBit_eq fun i => ?_
  rw [testBit_code, testBit_code, testBit_put hfits hn]
  by_cases hi : i < g.bits
  · rw [if_neg]
    rintro ⟨hlo, hhi⟩
    rcases hapart with h | h <;> omega
  · rw [decide_eq_false hi, Bool.false_and, Bool.false_and]

end StateField

/-! ## Many fields -/

namespace Layout

/-- Fields with different names that stand one after the other within a state. -/
structure Sound (fields : List StateField) : Prop where
  field : ∀ f ∈ fields, f.Sound
  order : fields.Pairwise fun f g => f.name ≠ g.name ∧ f.offset + f.bits ≤ g.offset

theorem sound_nil : Sound [] :=
  ⟨fun _ h => absurd h List.not_mem_nil, .nil⟩

variable {props : List (String × List String)} {offset : Nat} {f g : StateField}
  {fields : List StateField}

/-- Placing properties keeps them. -/
theorem map_place (props : List (String × List String)) (offset : Nat) :
    (place offset props).map (fun f => (f.name, f.values)) = props := by
  induction props generalizing offset with
  | nil => rfl
  | cons prop rest ih =>
    rw [place, List.map_cons, ih]

/-- A placed field stands between the first bit and the last. -/
theorem of_mem_place (h : f ∈ place offset props) :
    offset ≤ f.offset ∧ f.offset + f.bits ≤ offset + bits (place offset props) ∧
      f.bits = StateField.width f.values.length := by
  induction props generalizing offset with
  | nil => exact absurd h List.not_mem_nil
  | cons prop rest ih =>
    show offset ≤ f.offset ∧ f.offset + f.bits ≤ offset + (StateField.width prop.2.length +
      bits (place (offset + StateField.width prop.2.length) rest)) ∧ _
    rcases List.mem_cons.mp h with rfl | hrest
    · refine ⟨Nat.le_refl _, ?_, rfl⟩
      show offset + StateField.width prop.2.length ≤ _
      omega
    · obtain ⟨hlo, hhi, hbits⟩ := ih hrest
      exact ⟨by omega, by omega, hbits⟩

/-- Properties are placed one after the other. -/
theorem order_place (h : props.Pairwise fun p q => p.1 ≠ q.1) :
    (place offset props).Pairwise fun f g => f.name ≠ g.name ∧ f.offset + f.bits ≤ g.offset := by
  induction props generalizing offset with
  | nil => exact .nil
  | cons prop rest ih =>
    obtain ⟨hfirst, hrest⟩ := List.pairwise_cons.mp h
    refine List.pairwise_cons.mpr ⟨?_, ih hrest⟩
    intro f hf
    refine ⟨?_, (of_mem_place hf).1⟩
    have hmem : (f.name, f.values) ∈ rest := by
      rw [← map_place rest]
      exact List.mem_map_of_mem hf
    exact hfirst _ hmem

/-- **The fields of a schema have different names and bits of their own.** -/
theorem sound_ofSchema {schema : Schema} (h : bits (ofSchema schema) ≤ Registry.stateBits) :
    Sound (ofSchema schema) := by
  constructor
  · intro f hf
    obtain ⟨-, hhi, hbits⟩ := of_mem_place hf
    refine ⟨Nat.le_trans hhi ?_, hbits⟩
    rw [Nat.zero_add]
    exact h
  · refine order_place (Std.TreeMap.distinct_keys_toList.imp ?_)
    intro p q hne heq
    exact hne (Std.compare_eq_iff_eq.mpr heq)

namespace Sound

theorem differs (hsound : Sound fields) (hf : f ∈ fields) (hg : g ∈ fields) (hne : f ≠ g) :
    f.Differs g := by
  have hpairwise : fields.Pairwise StateField.Differs :=
    hsound.order.imp fun h => ⟨h.1, .inl h.2⟩
  exact hpairwise.forall hf hg hne

/-- Fields with the same name are the same field. -/
theorem eq_of_name_eq (hsound : Sound fields) (hf : f ∈ fields) (hg : g ∈ fields)
    (h : f.name = g.name) : f = g := by
  by_cases hne : f = g
  · exact hne
  · exact absurd h (hsound.differs hf hg hne).1

end Sound

/-- A bit of some field. -/
def Holds (fields : List StateField) (i : Nat) : Prop :=
  ∃ f ∈ fields, f.Holds i

/-- **A state is told by the numbers of its fields and the bits outside of them.** -/
theorem state_ext {s s' : UInt16} (hcode : ∀ f ∈ fields, f.code s = f.code s')
    (hrest : ∀ i, ¬ Holds fields i → s.toNat.testBit i = s'.toNat.testBit i) : s = s' := by
  refine UInt16.toNat_inj.mp (Nat.eq_of_testBit_eq fun i => ?_)
  by_cases hi : Holds fields i
  · obtain ⟨f, hf, hlo, hhi⟩ := hi
    have hbit := congrArg (Nat.testBit · (i - f.offset)) (hcode f hf)
    simp only [StateField.testBit_code] at hbit
    have hback : f.offset + (i - f.offset) = i := by omega
    rw [decide_eq_true (by omega), hback, Bool.true_and, Bool.true_and] at hbit
    exact hbit
  · exact hrest i hi

end Layout

/-! ## Registries -/

namespace Registry

/-- The types of a table have sound layouts. -/
def SoundTable (table : Array BlockType) : Prop :=
  ∀ t ∈ table, Layout.Sound t.fields

theorem sound_of_typeOf {taken : Nat} {d : BlockDefinition} {t : BlockType}
    (h : typeOf taken d = .ok t) : Layout.Sound t.fields := by
  simp only [typeOf] at h
  split at h
  · cases h
  · split at h
    · cases h
    · rename_i hbits
      rw [← Except.ok.inj h]
      exact Layout.sound_ofSchema (Nat.not_lt.mp hbits)

theorem SoundTable.enter {table : Array BlockType} {t : BlockType} (htable : SoundTable table)
    (ht : Layout.Sound t.fields) : SoundTable (enter table t) := by
  intro u hu
  rcases Array.mem_or_eq_of_mem_setIfInBounds hu with hu | rfl
  · rcases Array.mem_append.mp hu with hu | hu
    · exact htable u hu
    · rw [(Array.mem_replicate.mp hu).2]
      exact Layout.sound_nil
  · exact ht

theorem sound_of_foldlM {defs : List BlockDefinition} {table table' : Array BlockType}
    (htable : SoundTable table)
    (h : defs.foldlM (fun table d => (typeOf table.size d).map (Registry.enter table)) table =
      .ok table') : SoundTable table' := by
  induction defs generalizing table with
  | nil =>
    rw [← Except.ok.inj h]
    exact htable
  | cons d rest ih =>
    rw [List.foldlM_cons] at h
    obtain ⟨next, hnext, h⟩ := Checked.bind_eq_ok_iff.mp h
    obtain ⟨t, ht, rfl⟩ := Checked.map_eq_ok_iff.mp hnext
    exact ih (htable.enter (sound_of_typeOf ht)) h

/-- **All types of a registry have sound layouts.** -/
theorem sound_of_mem {cfg : RegistryConfig} {reg : Registry} (hbuild : build cfg = .ok reg)
    {t : BlockType} (h : t ∈ reg.types) : Layout.Sound t.fields := by
  obtain ⟨types, htypes, hreg⟩ := Checked.bind_eq_ok_iff.mp hbuild
  have hempty : SoundTable #[] := fun t ht => absurd ht (Array.not_mem_empty t)
  rw [← Except.ok.inj hreg] at h
  exact sound_of_foldlM hempty htypes t h

theorem sound_of_get? {cfg : RegistryConfig} {reg : Registry} (hbuild : build cfg = .ok reg)
    {id : BlockId} {t : BlockType} (h : reg.get? id = some t) : Layout.Sound t.fields :=
  sound_of_mem hbuild (Array.mem_of_getElem? h)

end Registry

end PlotGrid
