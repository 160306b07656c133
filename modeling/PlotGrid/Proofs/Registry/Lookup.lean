import PlotGrid.Proofs.Registry.Keys
import PlotGrid.Proofs.Registry.Survival

/-!
# Looking names up

Blocks and biomes are entered under their names as they are written, but looked up without the
default namespace. So the names without that namespace lead to what they name, and no name with it
does.

- `Registry.found_iff`: which block definitions are found by their names as keys.
- `Registry.getElem?_tagsOf_iff`, `Registry.biomeOf?_iff`: the numbers of biomes.
- `names_are_found_iff`: which of the names of a registry are found.
- `namespaced_names_are_lost`: a block and a biome that no name leads to.
-/

namespace PlotGrid

namespace Registry

variable {cfg : RegistryConfig} {reg : Registry}

/-- A definition is found by its name as a key iff its name is looked up as it is. -/
theorem found_iff (hbuild : build cfg = .ok reg)
    (hnames : (cfg.blocks.map BlockDefinition.name).Nodup) {d : BlockDefinition}
    (hknows : reg.Knows d) (hplain : '[' ∉ d.name.toList) :
    (∃ b t, reg.blockOfKey? d.name = some b ∧ reg.get? b.id = some t ∧ t.name = d.name) ↔
      stripNamespace d.name = d.name := by
  rw [blockOfKey?_of_plain hplain]
  constructor
  · rintro ⟨b, t, hkey, hget, hname⟩
    obtain ⟨id, hid, rfl⟩ := Option.map_eq_some_iff.mp hkey
    obtain ⟨u, hu, -, huname⟩ := (idOf?_eq_some_iff hnames hbuild).mp hid
    obtain rfl : t = u := Option.some.inj (hget.symm.trans hu)
    exact huname.symm.trans hname
  · intro hstrip
    obtain ⟨id, hid, hget⟩ := hknows
    exact ⟨⟨id, 0⟩, d.entry id, by rw [hstrip, hid]; rfl, hget, rfl⟩

/-- The number of a biome is its place in the list. -/
theorem getElem?_tagsOf_iff {biomes : List String} (hnodup : biomes.Nodup) {name : String}
    {tag : BiomeTag} :
    (tagsOf biomes)[name]? = some tag ↔ ∃ i, biomes[i]? = some name ∧ .ofNat i = tag := by
  have htags : tagsOf biomes = (biomes.zipIdx.map fun b => (b.1, UInt16.ofNat b.2)).foldl
      (fun tags p => tags.insert p.1 p.2) ∅ := by
    rw [tagsOf, List.foldl_map]
  rw [htags, getElem?_foldl_insert]
  · simp [List.mem_zipIdx_iff_getElem?]
  · simp only [List.mem_map]
    rintro p ⟨⟨n, i⟩, hi, rfl⟩ q ⟨⟨m, j⟩, hj, rfl⟩ (rfl : n = m)
    rw [List.mem_zipIdx_iff_getElem?] at hi hj
    obtain ⟨hlt, -⟩ := List.getElem?_eq_some_iff.mp hi
    rw [(List.getElem?_inj hlt hnodup).mp (hi.trans hj.symm)]

/-- A biome is found by its name iff its name is looked up as it is. -/
theorem biomeOf?_iff (hbuild : build cfg = .ok reg) (hnodup : cfg.biomes.Nodup)
    (hmany : cfg.biomes.length ≤ 65536) {i : Nat} (hi : i < cfg.biomes.length) :
    reg.biomeOf? cfg.biomes[i] = some (.ofNat i) ↔
      stripNamespace cfg.biomes[i] = cfg.biomes[i] := by
  obtain ⟨types, -, rfl⟩ := build_eq_ok_iff.mp hbuild
  rw [biomeOf?, getElem?_tagsOf_iff hnodup]
  constructor
  · rintro ⟨j, hj, htag⟩
    obtain ⟨hlt, hname⟩ := List.getElem?_eq_some_iff.mp hj
    -- numbers of that many biomes do not wrap around
    have hsame : j = i := by
      have hnat := congrArg UInt16.toNat htag
      rwa [UInt16.toNat_ofNat_of_lt' (Nat.lt_of_lt_of_le hlt hmany),
        UInt16.toNat_ofNat_of_lt' (Nat.lt_of_lt_of_le hi hmany)] at hnat
    subst hsame
    exact hname.symm
  · intro hstrip
    exact ⟨i, by rw [hstrip, List.getElem?_eq_getElem hi], rfl⟩

theorem biomeName?_ofNat (hbuild : build cfg = .ok reg) (hmany : cfg.biomes.length ≤ 65536)
    {i : Nat} (hi : i < cfg.biomes.length) : reg.biomeName? (.ofNat i) = some cfg.biomes[i] := by
  obtain ⟨types, -, rfl⟩ := build_eq_ok_iff.mp hbuild
  rw [biomeName?, UInt16.toNat_ofNat_of_lt' (Nat.lt_of_lt_of_le hi hmany),
    List.getElem?_toArray, List.getElem?_eq_getElem hi]

end Registry

/-- **Names are found unless they have the default namespace in front.** Let the blocks of a
registry have different names that are not empty and have no bracket, and numbers of their own,
and let there be different biomes, no more than there are numbers. The name of a block is the key
of a block whose type has that name iff it does not start with the default namespace, and so it is
for the name of a biome and its place in the list. The name of each place is the one listed. -/
theorem names_are_found_iff {cfg : RegistryConfig} {reg : Registry}
    (hbuild : Registry.build cfg = .ok reg)
    (hnames : (cfg.blocks.map BlockDefinition.name).Nodup)
    (hplain : ∀ d ∈ cfg.blocks, d.name ≠ "" ∧ '[' ∉ d.name.toList)
    (hnumbers : Registry.NumbersApart cfg.blocks)
    (hbiomes : cfg.biomes.Nodup) (hmany : cfg.biomes.length ≤ 65536) :
    (∀ d ∈ cfg.blocks,
      (∃ b t, reg.blockOfKey? d.name = some b ∧ reg.get? b.id = some t ∧ t.name = d.name) ↔
        ¬ defaultNamespace <+: d.name.toList) ∧
    ∀ (i : Nat) (hi : i < cfg.biomes.length),
      (reg.biomeOf? cfg.biomes[i] = some (.ofNat i) ↔
        ¬ defaultNamespace <+: cfg.biomes[i].toList) ∧
      reg.biomeName? (.ofNat i) = some cfg.biomes[i] := by
  have hknows := (Registry.knows_all_iff hnames (fun d hd => (hplain d hd).1) hbuild).mpr hnumbers
  refine ⟨fun d hd => ?_, fun i hi => ⟨?_, Registry.biomeName?_ofNat hbuild hmany hi⟩⟩
  · rw [← stripNamespace_eq_self_iff]
    exact Registry.found_iff hbuild hnames (hknows d hd) (hplain d hd).2
  · rw [← stripNamespace_eq_self_iff]
    exact Registry.biomeOf?_iff hbuild hbiomes hmany hi

theorem RegistryConfig.grove_numbersApart : Registry.NumbersApart grove.blocks := by
  intro table d hmeets
  rcases grove_meets hmeets with ⟨rfl, rfl⟩ | ⟨rfl, rfl⟩ | ⟨rfl, rfl⟩ <;> decide

/-- The names of the grove have no namespace. -/
theorem names_of_grove_are_found : ∃ reg, Registry.build .grove = .ok reg ∧
    (∃ b t, reg.blockOfKey? "stone" = some b ∧ reg.get? b.id = some t ∧ t.name = "stone") ∧
    reg.biomeOf? "forest" = some 1 ∧ reg.biomeName? 1 = some "forest" := by
  have hbuild : ∃ reg, Registry.build .grove = .ok reg := ⟨_, rfl⟩
  obtain ⟨reg, hbuild⟩ := hbuild
  obtain ⟨hblocks, hbiomes⟩ := names_are_found_iff hbuild (by decide) (by decide)
    RegistryConfig.grove_numbersApart (by decide) (by decide)
  have hstone := (hblocks (.plain "stone" none) (.tail _ (.tail _ (.head _)))).mpr (by decide)
  obtain ⟨hforest, hname⟩ := hbiomes 1 (by decide)
  exact ⟨reg, hbuild, hstone, hforest.mpr (by decide), hname⟩

/-- A block and a biome whose names have the default namespace in front. -/
def RegistryConfig.spelled : RegistryConfig :=
  ⟨[.plain "minecraft:stone" none], ["minecraft:plains"], none⟩

theorem RegistryConfig.spelled_build : ∃ reg, Registry.build .spelled = .ok reg ∧
    reg.get? 0 = some ⟨0, "minecraft:stone", []⟩ ∧ reg.biomeName? 0 = some "minecraft:plains" ∧
    (∀ name, reg.idOf? name = if "minecraft:stone" = name then some 0 else none) ∧
    ∀ name, reg.tagByBiome[name]? = if "minecraft:plains" = name then some 0 else none := by
  refine ⟨_, rfl, rfl, rfl, fun name => ?_, fun name => ?_⟩
  · show ((∅ : Std.HashMap String BlockId).insert "minecraft:stone" 0)[name]? = _
    simp [Std.HashMap.getElem?_insert]
  · show ((∅ : Std.HashMap String BiomeTag).insert "minecraft:plains" 0)[name]? = _
    simp [Std.HashMap.getElem?_insert]

theorem RegistryConfig.spelled_numbersApart : Registry.NumbersApart spelled.blocks := by
  have hsplit : spelled.blocks = [] ++ [.plain "minecraft:stone" none] := rfl
  intro table d hmeets
  rw [hsplit, Registry.meets_concat_iff, or_iff_right Registry.not_meets_nil] at hmeets
  obtain ⟨rfl, htable⟩ := hmeets
  rw [← Except.ok.inj htable]
  decide

/-- A block and a biome that are in the registry, but are not found by their names. -/
theorem namespaced_names_are_lost : ∃ reg, Registry.build .spelled = .ok reg ∧
    (RegistryConfig.spelled.blocks.map BlockDefinition.name).Nodup ∧
    (∀ d ∈ RegistryConfig.spelled.blocks, d.name ≠ "" ∧ '[' ∉ d.name.toList) ∧
    Registry.NumbersApart RegistryConfig.spelled.blocks ∧
    reg.get? 0 = some ⟨0, "minecraft:stone", []⟩ ∧ reg.idOf? "minecraft:stone" = some 0 ∧
    reg.blockOfKey? "minecraft:stone" = none ∧
    reg.biomeName? 0 = some "minecraft:plains" ∧ reg.biomeOf? "minecraft:plains" = none := by
  obtain ⟨reg, hbuild, hget, hname, hid, htag⟩ := RegistryConfig.spelled_build
  have hstone : stripNamespace "minecraft:stone" = "stone" := by decide
  have hplains : stripNamespace "minecraft:plains" = "plains" := by decide
  refine ⟨reg, hbuild, by decide, by decide, RegistryConfig.spelled_numbersApart, hget, hid _, ?_,
    hname, ?_⟩
  · rw [Registry.blockOfKey?_of_plain (by decide), hstone, hid, if_neg (by decide)]
    rfl
  · rw [Registry.biomeOf?, hplains, htag, if_neg (by decide)]

end PlotGrid
