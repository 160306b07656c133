import PlotGrid.Proofs.Registry.Entries

/-!
# Definitions that stay

A definition without a number takes the length of the table, which no definition before it has.
Only the length of a full table is too large for a number: it becomes zero, and the definition takes
the place of the one that has that number.

- `Registry.Meets.taken_iff_full`: when the number of a definition without one is taken.
- `definitions_survive_iff`: which definitions stay, and with which numbers.
- `full_table_loses_air`: a definition without a number in place of air.
-/

namespace PlotGrid

namespace Registry

variable {defs : List BlockDefinition} {table : Array BlockType} {d : BlockDefinition}

theorem Meets.size_le (h : Meets defs table d) (hnames : (defs.map BlockDefinition.name).Nodup) :
    table.size ≤ UInt16.size := by
  obtain ⟨before, after, rfl, htable⟩ := h
  rw [List.map_append] at hnames
  exact (loaded_of_tableOf (List.nodup_append.mp hnames).1 htable).size

/-- A definition without a number gets one that is taken iff the table is full and zero is
taken. -/
theorem Meets.taken_iff_full (h : Meets defs table d)
    (hnames : (defs.map BlockDefinition.name).Nodup) (hid : d.id = none) :
    Taken table (d.number table.size) ↔ table.size = UInt16.size ∧ Taken table 0 := by
  have hnumber : d.number table.size = .ofNat table.size := by rw [BlockDefinition.number, hid]; rfl
  rw [hnumber]
  rcases Nat.lt_or_eq_of_le (h.size_le hnames) with hlt | hfull
  · have hplace : (UInt16.ofNat table.size).toNat = table.size := UInt16.toNat_ofNat_of_lt' hlt
    have hnone : table[(UInt16.ofNat table.size).toNat]? = none :=
      Array.getElem?_eq_none (Nat.le_of_eq hplace.symm)
    refine iff_of_false ?_ fun hfull => Nat.ne_of_lt hlt hfull.1
    rintro ⟨t, hget, -⟩
    rw [hnone] at hget
    cases hget
  · rw [hfull, and_iff_right rfl]
    rfl

/-- Definitions that are found by their names have different numbers. -/
theorem nodup_numbers {cfg : RegistryConfig} {reg : Registry}
    (hnames : (cfg.blocks.map BlockDefinition.name).Nodup)
    (hknows : ∀ d ∈ cfg.blocks, reg.Knows d) :
    (cfg.blocks.map fun d => reg.idOf? d.name).Nodup := by
  rw [List.Nodup, List.pairwise_map] at hnames ⊢
  refine hnames.imp_of_mem fun {d d'} hd hd' hne heq => ?_
  obtain ⟨id, hid, hget⟩ := hknows d hd
  obtain ⟨id', hid', hget'⟩ := hknows d' hd'
  obtain rfl : id = id' := Option.some.inj (hid.symm.trans (heq.trans hid'))
  exact hne (congrArg BlockType.name (Option.some.inj (hget.symm.trans hget')))

end Registry

/-- **Definitions stay unless the table is full.** Let definitions have different names that are
not empty, and let no number that is given in one be taken when it is read. All of them are found
by their names after loading, with their schemas and with different numbers, iff no definition
without a number meets a table of all 65536 numbers in which zero is taken. -/
theorem definitions_survive_iff {cfg : RegistryConfig} {reg : Registry}
    (hbuild : Registry.build cfg = .ok reg)
    (hnames : (cfg.blocks.map BlockDefinition.name).Nodup)
    (hnamed : ∀ d ∈ cfg.blocks, d.name ≠ "")
    (hgiven : ∀ table d, Registry.Meets cfg.blocks table d →
      ∀ id ∈ d.id, ¬ Registry.Taken table id) :
    ((∀ d ∈ cfg.blocks, reg.Knows d) ∧ (cfg.blocks.map fun d => reg.idOf? d.name).Nodup) ↔
      ∀ table d, Registry.Meets cfg.blocks table d → d.id = none →
        table.size = 65536 → ¬ Registry.Taken table 0 := by
  rw [and_iff_left_of_imp (Registry.nodup_numbers hnames),
    Registry.knows_all_iff hnames hnamed hbuild]
  constructor
  · intro happart table d hmeets hid hfull hzero
    exact happart table d hmeets ((hmeets.taken_iff_full hnames hid).mpr ⟨hfull, hzero⟩)
  · intro hfull table d hmeets htaken
    cases hid : d.id with
    | none =>
      obtain ⟨hsize, hzero⟩ := (hmeets.taken_iff_full hnames hid).mp htaken
      exact hfull table d hmeets hid hsize hzero
    | some id =>
      have hnumber : d.number table.size = id := by rw [BlockDefinition.number, hid]; rfl
      exact hgiven table d hmeets id hid (hnumber ▸ htaken)

/-- A block without properties. -/
def BlockDefinition.plain (name : String) (id : Option BlockId) : BlockDefinition :=
  ⟨name, id, ∅⟩

namespace RegistryConfig

/-- Air, a lamp behind a gap, stone without a number, and two biomes. -/
def grove : RegistryConfig :=
  ⟨[.plain "air" (some 0), ⟨"lamp", some 3, .ofList [("lit", ["false", "true"])]⟩,
    .plain "stone" none], ["plains", "forest"], none⟩

theorem grove_split : grove.blocks = [] ++ [.plain "air" (some 0)] ++
    [⟨"lamp", some 3, .ofList [("lit", ["false", "true"])]⟩] ++ [.plain "stone" none] :=
  rfl

/-- The definitions with the tables that they meet. -/
theorem grove_meets {table : Array BlockType} {d : BlockDefinition}
    (h : Registry.Meets grove.blocks table d) :
    d = .plain "air" (some 0) ∧ table = #[] ∨
    d = ⟨"lamp", some 3, .ofList [("lit", ["false", "true"])]⟩ ∧ table = #[⟨0, "air", []⟩] ∨
    d = .plain "stone" none ∧ table = #[⟨0, "air", []⟩, .placeholder 3, .placeholder 3,
      ⟨3, "lamp", [⟨"lit", ["false", "true"], 1, 0⟩]⟩] := by
  rw [grove_split, Registry.meets_concat_iff, Registry.meets_concat_iff,
    Registry.meets_concat_iff, or_iff_right Registry.not_meets_nil] at h
  rcases h with (⟨rfl, h⟩ | ⟨rfl, h⟩) | ⟨rfl, h⟩
  · exact .inl ⟨rfl, (Except.ok.inj h).symm⟩
  · exact .inr (.inl ⟨rfl, (Except.ok.inj h).symm⟩)
  · exact .inr (.inr ⟨rfl, (Except.ok.inj h).symm⟩)

theorem grove_given {table : Array BlockType} {d : BlockDefinition}
    (h : Registry.Meets grove.blocks table d) : ∀ id ∈ d.id, ¬ Registry.Taken table id := by
  rcases grove_meets h with ⟨rfl, rfl⟩ | ⟨rfl, rfl⟩ | ⟨rfl, rfl⟩
  · rintro id ⟨⟩
    decide
  · rintro id ⟨⟩
    decide
  · rintro id ⟨⟩

end RegistryConfig

/-- The number of the lamp leaves a gap behind air, and stone gets the next one. -/
theorem definitions_of_grove_survive : ∃ reg, Registry.build .grove = .ok reg ∧
    (∀ d ∈ RegistryConfig.grove.blocks, reg.Knows d) ∧
    (RegistryConfig.grove.blocks.map fun d => reg.idOf? d.name).Nodup := by
  have hbuild : ∃ reg, Registry.build .grove = .ok reg := ⟨_, rfl⟩
  obtain ⟨reg, hbuild⟩ := hbuild
  refine ⟨reg, hbuild, ?_⟩
  refine (definitions_survive_iff hbuild (by decide) (by decide)
    fun _ _ => RegistryConfig.grove_given).mpr fun table d hmeets _ hfull => ?_
  rcases RegistryConfig.grove_meets hmeets with ⟨-, rfl⟩ | ⟨-, rfl⟩ | ⟨-, rfl⟩ <;> cases hfull

namespace RegistryConfig

/-- Stone with the greatest number, and dirt without one. -/
def full : RegistryConfig :=
  ⟨[.plain "air" (some 0), .plain "stone" (some 65535), .plain "dirt" none], [], none⟩

theorem full_split : full.blocks = [] ++ [.plain "air" (some 0)] ++
    [.plain "stone" (some 65535)] ++ [.plain "dirt" none] :=
  rfl

/-- Air and stone at the two ends of a table of all numbers. -/
def fullTable : Array BlockType :=
  Registry.enter #[⟨0, "air", []⟩] ⟨65535, "stone", []⟩

theorem size_fullTable : fullTable.size = 65536 :=
  Registry.size_enter _ _

theorem tableOf_fullTable :
    Registry.tableOf ([] ++ [.plain "air" (some 0)] ++ [.plain "stone" (some 65535)]) =
      .ok fullTable :=
  Registry.tableOf_concat_iff.mpr ⟨#[⟨0, "air", []⟩], rfl, ⟨65535, "stone", []⟩, rfl, rfl⟩

/-- Behind a full table dirt enters at zero. -/
theorem tableOf_full : Registry.tableOf full.blocks =
    .ok (Registry.enter fullTable ⟨0, "dirt", []⟩) := by
  have hdirt : Registry.typeOf fullTable.size (.plain "dirt" none) = .ok ⟨0, "dirt", []⟩ := by
    rw [size_fullTable]
    rfl
  rw [full_split, Registry.tableOf_concat_iff]
  exact ⟨fullTable, tableOf_fullTable, _, hdirt, rfl⟩

/-- No type of the table has the name of air. -/
theorem not_air_of_mem {t : BlockType} (h : t ∈ Registry.enter fullTable ⟨0, "dirt", []⟩) :
    t.name ≠ "air" := by
  intro hname
  have hnamed : t.name ≠ "" := by rw [hname]; decide
  have hfirst : Registry.Loaded [.plain "air" (some 0)] #[⟨0, "air", []⟩] :=
    Registry.loaded_of_tableOf (by decide) rfl
  have hfull : Registry.Numbered fullTable := hfirst.number.enter _
  rcases (Registry.mem_enter_iff hfull hnamed).mp h with rfl | ⟨h, hid⟩
  · exact absurd hname (by decide)
  · rcases (Registry.mem_enter_iff hfirst.number hnamed).mp h with rfl | ⟨h, -⟩
    · exact absurd hname (by decide)
    · obtain rfl : t = ⟨0, "air", []⟩ := by simpa using h
      exact hid rfl

theorem full_given {table : Array BlockType} {d : BlockDefinition}
    (h : Registry.Meets full.blocks table d) : ∀ id ∈ d.id, ¬ Registry.Taken table id := by
  rw [full_split, Registry.meets_concat_iff, Registry.meets_concat_iff, Registry.meets_concat_iff,
    or_iff_right Registry.not_meets_nil] at h
  rcases h with (⟨rfl, h⟩ | ⟨rfl, h⟩) | ⟨rfl, -⟩
  · have htable : table = #[] := (Except.ok.inj h).symm
    rintro id ⟨⟩
    rw [htable]
    decide
  · have htable : table = #[⟨0, "air", []⟩] := (Except.ok.inj h).symm
    rintro id ⟨⟩
    rw [htable]
    decide
  · rintro id ⟨⟩

end RegistryConfig

/-- Dirt gets the number of air behind a full table, although no number is given twice and all
names differ. -/
theorem full_table_loses_air : ∃ reg, Registry.build .full = .ok reg ∧
    (RegistryConfig.full.blocks.map BlockDefinition.name).Nodup ∧
    (∀ d ∈ RegistryConfig.full.blocks, d.name ≠ "") ∧
    (∀ table d, Registry.Meets RegistryConfig.full.blocks table d →
      ∀ id ∈ d.id, ¬ Registry.Taken table id) ∧
    reg.get? 0 = some ⟨0, "dirt", []⟩ ∧ ¬ reg.Knows (.plain "air" (some 0)) := by
  obtain ⟨reg, hbuild, htypes⟩ := Registry.exists_build RegistryConfig.tableOf_full
  refine ⟨reg, hbuild, by decide, by decide, fun _ _ => RegistryConfig.full_given, ?_, ?_⟩
  · rw [Registry.get?, htypes, Registry.getElem?_enter_iff (by decide), if_pos rfl]
  · rintro ⟨id, -, hget⟩
    rw [Registry.get?, htypes] at hget
    exact RegistryConfig.not_air_of_mem (Array.mem_of_getElem? hget) rfl

end PlotGrid
