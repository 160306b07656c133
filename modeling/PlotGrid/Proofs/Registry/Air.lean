import PlotGrid.Proofs.Overlay.Priority
import PlotGrid.Proofs.Registry.Keys
import PlotGrid.Proofs.Registry.Places

/-!
# What is treated as air

A voxel is air if its number is zero, whatever type has that number. Air itself can have no other
number, but zero goes to whichever definition gets it last: to the first one of a list that has no
air, to one that gives zero itself, and to one that finds a full table. So air alone is treated as
air only where zero is left to it, or where no key leads to the type that has zero.

- `Registry.get?_eq_some_iff`: the named entries of a registry.
- `Registry.idOf?_eq_some_iff_last`: a name has the greatest number among the entries of that name.
- `RegistryConfig.KeepsZero`, `Registry.tells_air_iff`: when air is told by its number.
- `Fragments.placed_iff`: the voxels of fragments that a build places.
- `only_air_is_air_iff`: which blocks of keys are air, and what a build does with them.
-/

namespace PlotGrid

namespace Registry

variable {cfg : RegistryConfig} {reg : Registry} {defs : List BlockDefinition}
  {table : Array BlockType} {t : BlockType} {id : BlockId} {name : String}

/-- **The named entries of a registry** are the types of the last definitions that get their
numbers. -/
theorem get?_eq_some_iff (hbuild : build cfg = .ok reg) (hname : t.name ≠ "") :
    reg.get? id = some t ↔
      ∃ d, BlockDefinition.lastAt? cfg.blocks id = some d ∧ d.entry id = t := by
  rw [get?_eq hbuild]
  cases BlockDefinition.lastAt? cfg.blocks id with
  | some d => simp
  | none =>
    -- what made room has no name
    cases BlockDefinition.beyond? cfg.blocks id with
    | some other =>
      have hplaceholder : BlockType.placeholder other ≠ t := fun h => hname (h ▸ rfl)
      simp [hplaceholder]
    | none => simp

/-! ## Names with several entries -/

theorem numbered_of_tableOf (h : tableOf defs = .ok table) : Numbered table := by
  induction defs using List.reverseRecOn generalizing table with
  | nil =>
    rw [← Except.ok.inj h]
    simp [Numbered]
  | append_singleton defs d ih =>
    obtain ⟨before, hbefore, t, -, rfl⟩ := tableOf_concat_iff.mp h
    exact (ih hbefore).enter t

theorem numbered_of_build (hbuild : build cfg = .ok reg) : Numbered reg.types :=
  numbered_of_tableOf (types_of_build hbuild)

/-- The names of a table with their numbers. -/
def namePairs (table : Array BlockType) : List (String × BlockId) :=
  (table.toList.filter fun t => !t.name.isEmpty).map fun t => (t.name, t.id)

theorem mem_namePairs_iff (h : Numbered table) :
    (name, id) ∈ namePairs table ↔ name ≠ "" ∧ ∃ t, table[id.toNat]? = some t ∧ t.name = name := by
  simp only [namePairs, List.mem_map, List.mem_filter, Array.mem_toList_iff, Prod.mk.injEq]
  constructor
  · rintro ⟨t, ⟨ht, hne⟩, rfl, rfl⟩
    have hne : t.name ≠ "" := by simpa using hne
    exact ⟨hne, t, (h.mem_iff hne).mp ht, rfl⟩
  · rintro ⟨hne, t, hget, rfl⟩
    exact ⟨t, ⟨Array.mem_of_getElem? hget, by simpa using hne⟩, rfl,
      UInt16.toNat_inj.mp (h _ t hget hne)⟩

/-- The names stand in the order of their numbers. -/
theorem pairwise_namePairs (h : Numbered table) :
    (namePairs table).Pairwise fun p q => p.2 < q.2 := by
  have hplaces : table.toList.Pairwise fun t u => t.name ≠ "" → u.name ≠ "" → t.id < u.id := by
    refine List.pairwise_iff_getElem.mpr fun i j hi hj hlt hti htj => ?_
    have hplace (k : Nat) (hk : k < table.toList.length) (hne : table.toList[k].name ≠ "") :
        table.toList[k].id.toNat = k :=
      h k _ (by rw [← Array.getElem?_toList, List.getElem?_eq_getElem hk]) hne
    rw [UInt16.lt_iff_toNat_lt, hplace i hi hti, hplace j hj htj]
    exact hlt
  refine List.pairwise_map.mpr ((hplaces.filter _).imp_of_mem fun ht hu hlt => ?_)
  exact hlt (by simpa using (List.mem_filter.mp ht).2) (by simpa using (List.mem_filter.mp hu).2)

/-- **A name has the greatest number** among those of the entries that have it. -/
theorem idOf?_eq_some_iff_last (hbuild : build cfg = .ok reg) : reg.idOf? name = some id ↔
    name ≠ "" ∧ IsLast (· < ·) (fun id => ∃ t, reg.get? id = some t ∧ t.name = name) id := by
  have hnumbered := numbered_of_build hbuild
  have hid : reg.idOf? name = (namePairs reg.types).reverse.findSome?
      fun p => if p.1 = name then some p.2 else none := by
    have hnames : reg.idByName = namesOf reg.types := by
      obtain ⟨table, -, rfl⟩ := build_eq_ok_iff.mp hbuild
      rfl
    rw [idOf?, hnames, namesOf_eq, getElem?_foldl_insert_last, Std.HashMap.getElem?_empty,
      Option.or_none]
    rfl
  have hlast {id : BlockId} (hfound : reg.idOf? name = some id) : name ≠ "" ∧
      IsLast (· < ·) (fun id => ∃ t, reg.get? id = some t ∧ t.name = name) id := by
    rw [hid] at hfound
    obtain ⟨⟨n, id'⟩, hlast, hgives⟩ :=
      exists_isLast_of_findSome? (pairwise_namePairs hnumbered) hfound
    obtain ⟨rfl, heq⟩ : n = name ∧ id' = id := by
      simpa using hgives
    subst heq
    obtain ⟨hne, hentry⟩ := (mem_namePairs_iff hnumbered).mp hlast.holds.1
    refine ⟨hne, hentry, fun other hother => ?_⟩
    have hmem := (mem_namePairs_iff hnumbered).mpr ⟨hne, hother⟩
    rcases hlast.last (n, other) ⟨hmem, by simp⟩ with heq | hlt
    · exact .inl (Prod.mk.inj heq).2
    · exact .inr hlt
  refine ⟨hlast, fun ⟨hne, hmax⟩ => ?_⟩
  cases hfound : reg.idOf? name with
  | none =>
    -- the entry with the number is among those that were searched
    have hmem := (mem_namePairs_iff hnumbered).mpr ⟨hne, hmax.holds⟩
    rw [hid] at hfound
    have hnone := List.findSome?_eq_none_iff.mp hfound _ (List.mem_reverse.mpr hmem)
    simp at hnone
  | some other =>
    rw [(hlast hfound).2.eq (fun a b => UInt16.lt_asymm) hmax]

/-! ## Blocks of keys -/

theorem idOf?_of_blockOfKey? {key : String} {b : Block} (h : reg.blockOfKey? key = some b) :
    reg.idOf? (stripNamespace (BlockKey.parse key).base) = some b.id := by
  obtain ⟨id, hid, hb⟩ := Option.map_eq_some_iff.mp h
  rw [hid, ← hb]
  split <;> rfl

/-- The block of a key is one of an entry that has the name in the key. -/
theorem exists_entry_of_blockOfKey? (hbuild : build cfg = .ok reg) {key : String} {b : Block}
    (h : reg.blockOfKey? key = some b) :
    ∃ t, reg.get? b.id = some t ∧ t.name = stripNamespace (BlockKey.parse key).base :=
  ((idOf?_eq_some_iff_last hbuild).mp (idOf?_of_blockOfKey? h)).2.holds

end Registry

theorem Text.not_mem_of_cut? {c : Char} {s before after : List Char}
    (h : cut? c s = some (before, after)) : c ∉ before := by
  induction s generalizing before with
  | nil => cases h
  | cons d rest ih =>
    by_cases hd : d = c
    · rw [cut?, if_pos hd] at h
      cases h
      exact List.not_mem_nil
    · rw [cut?, if_neg hd] at h
      obtain ⟨⟨before', after'⟩, hcut, heq⟩ := Option.map_eq_some_iff.mp h
      cases heq
      exact List.not_mem_cons_of_ne_of_not_mem (Ne.symm hd) (ih hcut)

/-- The name in a key has no bracket. -/
theorem BlockKey.bracket_not_mem_name (key : String) :
    '[' ∉ (stripNamespace (BlockKey.parse key).base).toList := by
  have hbase : '[' ∉ (BlockKey.parse key).base.toList := by
    unfold parse
    split
    · rename_i hcut
      exact Text.cut?_eq_none_iff.mp hcut
    · rename_i hcut
      rw [String.toList_ofList]
      exact Text.not_mem_of_cut? hcut
  unfold stripNamespace
  split
  · rw [String.toList_ofList]
    exact fun hmem => hbase (List.mem_of_mem_drop hmem)
  · exact hbase

/-! ## Air -/

/-- **Zero is kept for air**: the definition that has zero in the end is that of air, or no key
leads to it. Its name is empty or has a bracket, or a definition with the same name has another
number in the end. -/
def RegistryConfig.KeepsZero (cfg : RegistryConfig) : Prop :=
  ∀ d, BlockDefinition.lastAt? cfg.blocks 0 = some d →
    d.name = "air" ∨ d.name = "" ∨ '[' ∈ d.name.toList ∨
      ∃ id ≠ 0, ∃ d', BlockDefinition.lastAt? cfg.blocks id = some d' ∧ d'.name = d.name

namespace Registry

variable {cfg : RegistryConfig} {reg : Registry}

/-- Where zero is kept for air, a block of a key that has zero is one of air. -/
theorem name_eq_air_of_keepsZero (hbuild : build cfg = .ok reg) (hzero : cfg.KeepsZero)
    {key : String} {b : Block} {t : BlockType} (hkey : reg.blockOfKey? key = some b)
    (hget : reg.get? b.id = some t) (hair : b.isAir = true) : t.name = "air" := by
  have hid : b.id = 0 := by simpa [Block.isAir] using hair
  obtain ⟨hne, hlast⟩ := (idOf?_eq_some_iff_last hbuild).mp (idOf?_of_blockOfKey? hkey)
  obtain ⟨u, hu, hname⟩ := hlast.holds
  obtain rfl : u = t := Option.some.inj (hu.symm.trans hget)
  rw [hid] at hu hlast
  rw [← hname] at hne
  obtain ⟨d, hd, rfl⟩ := (get?_eq_some_iff hbuild hne).mp hu
  rcases hzero d hd with hair | hempty | hbracket | ⟨id, hid, d', hd', heq⟩
  · exact hair
  · exact absurd hempty hne
  · refine absurd hbracket ?_
    have hplain := BlockKey.bracket_not_mem_name key
    rwa [← hname] at hplain
  · -- the name has the greater number of the other definition
    have hother : d'.name ≠ "" := by rwa [heq]
    have hget' := (get?_eq_some_iff hbuild (t := d'.entry id) hother).mpr ⟨d', hd', rfl⟩
    rcases hlast.last id ⟨_, hget', heq.trans hname⟩ with hsame | hlt
    · exact absurd hsame hid
    · exact absurd hlt (by simp)

/-- **Air is told by its number iff zero is kept for it.** -/
theorem tells_air_iff (hbuild : build cfg = .ok reg) :
    (∀ key b t, reg.blockOfKey? key = some b → reg.get? b.id = some t → t.name ≠ "air" →
      b.isAir = false) ↔ cfg.KeepsZero := by
  constructor
  · intro htells d hd
    by_contra hnone
    simp only [not_or, not_exists, not_and] at hnone
    obtain ⟨hair, hempty, hbracket, hothers⟩ := hnone
    have hget := (get?_eq_some_iff hbuild (t := d.entry 0) hempty).mpr ⟨d, hd, rfl⟩
    -- no other definition has the name, so the name has zero
    have hid : reg.idOf? d.name = some 0 := by
      refine (idOf?_eq_some_iff_last hbuild).mpr ⟨hempty, ⟨_, hget, rfl⟩, ?_⟩
      rintro id ⟨t, ht, hname⟩
      have hnamed : t.name ≠ "" := by rwa [hname]
      obtain ⟨d', hd', rfl⟩ := (get?_eq_some_iff hbuild hnamed).mp ht
      exact .inl (by_contra fun hne => hothers id hne d' hd' hname)
    have hkey : reg.blockOfKey? ("minecraft:" ++ d.name) = some ⟨0, 0⟩ := by
      have hplain : '[' ∉ ("minecraft:" ++ d.name).toList := by
        simp [String.toList_append, hbracket]
      rw [blockOfKey?_of_plain hplain, stripNamespace_append, hid]
      rfl
    cases htells _ _ _ hkey hget hair
  · intro hzero key b t hkey hget hname
    refine Bool.eq_false_iff.mpr fun hair => hname ?_
    exact name_eq_air_of_keepsZero hbuild hzero hkey hget hair

end Registry

/-! ## Fragments -/

/-- **What a build places**: a voxel of a fragment with a slot is placed iff it is not air. -/
theorem Fragments.placed_iff {reg : Registry} {g : Geometry} {s : SchematicSettings}
    {f : Fragments} {o : Overlay} {notices : Array Notice}
    (hrun : (Overlay.build reg g s f).exec = (.ok o, notices)) {slot : Slot} {c : Clip}
    (hclip : slot.clip? f = some c) (hroad : slot ≠ .plot → f.hasRoad g = true) {x z y : Nat}
    (hcolumn : (x, z) ∈ c.columnList) (hy : y < c.coordHeight.toNat) :
    .ok (slot.voxelPlacement ⟨g, s, o.anchors⟩ c x z (y, c.cell x y z)) ∈
        f.placements g s o.anchors ↔
      (c.cell x y z).isAir = false := by
  obtain ⟨blank, -, -, d, hd, hall, rfl, -⟩ := Overlay.build_eq_ok hrun
  have hanchors : d.overlay.anchors = blank.anchors := by rw [hd, Draft.anchors_foldl]
  have hcourse := (placements_eq_course ⟨g, s, blank.anchors⟩ (Draft.placeAll_eq_none hall)).1
  dsimp only at hcourse
  rw [hanchors, hcourse, List.mem_map]
  constructor
  · rintro ⟨p, hp, heq⟩
    obtain rfl := Except.ok.inj heq
    rcases of_mem_course hp with ⟨t, ht, hsite⟩ | ⟨_, _, _, hbiome⟩
    · have hvoxel : c.cell x y z = t.voxel := by
        injection hsite
      rw [hvoxel]
      exact (Clip.mem_solids_iff.mp (mem_sites_iff.mp ht).1.voxel).2.2
    · cases hbiome
  · intro hsolid
    refine ⟨_, ?_, rfl⟩
    obtain ⟨slots, hfilling, hslot⟩ := exists_filling_iff.mpr ⟨hclip, hroad⟩
    refine List.mem_flatMap.mpr ⟨_, hfilling, List.mem_flatMap.mpr ⟨_, hcolumn, ?_⟩⟩
    refine List.mem_append_left _ (List.mem_flatMap.mpr ⟨_, ?_, List.mem_map_of_mem hslot⟩)
    exact Clip.mem_solids_iff.mpr ⟨hy, rfl, hsolid⟩

/-- **Only air is treated as air iff zero is kept for it.** In every registry a key gives a block
of a type with the name that is in the key. The blocks of all types but air are not air iff zero is
kept for air. And a build that does not stop places a voxel of a fragment with a slot iff the block
is not air, so it leaves out what is not air by its name exactly where another type has zero. -/
theorem only_air_is_air_iff {cfg : RegistryConfig} {reg : Registry}
    (hbuild : Registry.build cfg = .ok reg) :
    (∀ key b, reg.blockOfKey? key = some b →
      ∃ t, reg.get? b.id = some t ∧ t.name = stripNamespace (BlockKey.parse key).base) ∧
    ((∀ key b t, reg.blockOfKey? key = some b → reg.get? b.id = some t → t.name ≠ "air" →
      b.isAir = false) ↔ cfg.KeepsZero) ∧
    ∀ g s f o notices, (Overlay.build reg g s f).exec = (.ok o, notices) →
      ∀ (slot : Slot) (c : Clip), slot.clip? f = some c → (slot ≠ .plot → f.hasRoad g = true) →
        ∀ x z y, (x, z) ∈ c.columnList → y < c.coordHeight.toNat →
          (.ok (slot.voxelPlacement ⟨g, s, o.anchors⟩ c x z (y, c.cell x y z)) ∈
            f.placements g s o.anchors ↔ (c.cell x y z).block.isAir = false) := by
  refine ⟨fun key b hkey => Registry.exists_entry_of_blockOfKey? hbuild hkey,
    Registry.tells_air_iff hbuild, ?_⟩
  intro g s f o notices hrun slot c hclip hroad x z y hcolumn hy
  exact Fragments.placed_iff hrun hclip hroad hcolumn hy

/-- The grove gives zero to air. -/
theorem only_air_of_grove_is_air : ∃ reg, Registry.build .grove = .ok reg ∧
    ∀ key b t, reg.blockOfKey? key = some b → reg.get? b.id = some t → t.name ≠ "air" →
      b.isAir = false := by
  have hbuild : ∃ reg, Registry.build .grove = .ok reg := ⟨_, rfl⟩
  obtain ⟨reg, hbuild⟩ := hbuild
  refine ⟨reg, hbuild, (only_air_is_air_iff hbuild).2.1.mpr fun d hd => .inl ?_⟩
  have hair : BlockDefinition.lastAt? RegistryConfig.grove.blocks 0 =
      some (.plain "air" (some 0)) := rfl
  rw [← Option.some.inj (hair.symm.trans hd)]
  rfl

/-- Stone and dirt without numbers, and no air. -/
def RegistryConfig.airless : RegistryConfig :=
  ⟨[.plain "stone" none, .plain "dirt" none], [], none⟩

/-- Without a definition of air the first definition gets zero, and stone is air. -/
theorem stone_is_air : ∃ reg, Registry.build .airless = .ok reg ∧
    reg.blockOfKey? "stone" = some ⟨0, 0⟩ ∧ reg.get? 0 = some ⟨0, "stone", []⟩ ∧
    (⟨0, 0⟩ : Block).isAir = true := by
  have hbuild : ∃ reg, Registry.build .airless = .ok reg ∧
      reg.get? 0 = some ⟨0, "stone", []⟩ ∧ reg.idByName = ((∅ : Std.HashMap String BlockId).insert
        "stone" 0).insert "dirt" 1 := ⟨_, rfl, rfl, rfl⟩
  obtain ⟨reg, hbuild, hget, hnames⟩ := hbuild
  refine ⟨reg, hbuild, ?_, hget, rfl⟩
  have hid : reg.idOf? "stone" = some 0 := by
    rw [Registry.idOf?, hnames, Std.HashMap.getElem?_insert, if_neg (by decide),
      Std.HashMap.getElem?_insert_self]
  have hplain : stripNamespace "stone" = "stone" := by decide
  rw [Registry.blockOfKey?_of_plain (by decide), hplain, hid]
  rfl

end PlotGrid
