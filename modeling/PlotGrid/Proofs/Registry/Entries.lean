import Mathlib.Data.List.Induction
import PlotGrid.Fault
import PlotGrid.Registry.Basic

/-!
# Entries of a registry

A table grows by one definition after the other: each enters its type at its own number, and the
entries that fill the gaps have no name. So the named entries of a table stand at their own numbers
and come from the definitions, and a definition is lost only to a later one that enters at its
number.

- `BlockDefinition.number`, `BlockDefinition.entry`: the number that a definition gets, and its
  type.
- `Registry.getElem?_enter_iff`, `Registry.mem_enter_iff`: what entering a type does.
- `Registry.Loaded`: what a table is after a list of definitions.
- `Registry.Meets`, `Registry.Taken`: the table that a definition finds, and its taken numbers.
- `Registry.keeps_all_iff`: all definitions stay iff each gets a number that is not taken.
- `Registry.getElem?_foldl_insert_last`, `Registry.getElem?_foldl_insert`: what is found by keys
  that were entered with their values.
- `Registry.idOf?_eq_some_iff`, `Registry.knows_iff`: names lead to the entries that have them.
-/

namespace PlotGrid

namespace BlockDefinition

/-- The number of a definition that finds a table of some length. -/
def number (d : BlockDefinition) (taken : Nat) : BlockId :=
  d.id.getD (.ofNat taken)

/-- The type of a definition under a number. -/
def entry (d : BlockDefinition) (id : BlockId) : BlockType :=
  ⟨id, d.name, Layout.ofSchema d.schema⟩

end BlockDefinition

namespace Registry

variable {defs : List BlockDefinition} {table : Array BlockType} {d : BlockDefinition}
  {t u : BlockType} {id : BlockId}

/-! ## One entry -/

theorem eq_entry_of_typeOf {taken : Nat} (h : typeOf taken d = .ok t) :
    t = d.entry (d.number taken) := by
  simp only [typeOf] at h
  split at h
  · cases h
  · split at h
    · cases h
    · exact (Except.ok.inj h).symm

theorem size_enter (table : Array BlockType) (t : BlockType) :
    (enter table t).size = max table.size (t.id.toNat + 1) := by
  simp only [enter, Array.size_setIfInBounds, Array.size_append, Array.size_replicate]
  omega

/-- **What is at a place after an entry**: the type entered, or what was there before, or else an
entry without a name that fills the gap up to the place entered. -/
theorem getElem?_enter {n : Nat} : (enter table t)[n]? =
    if n = t.id.toNat then some t
    else table[n]?.or (if n < t.id.toNat then some (.placeholder t.id) else none) := by
  have hbound : t.id.toNat < table.size + (t.id.toNat + 1 - table.size) := by omega
  rw [enter, Array.getElem?_setIfInBounds, Array.size_append, Array.size_replicate]
  by_cases hn : n = t.id.toNat
  · rw [if_pos hn.symm, if_pos hn, if_pos (hn ▸ hbound)]
  · rw [if_neg (Ne.symm hn), if_neg hn, Array.getElem?_append]
    split
    · rename_i hsize
      rw [Array.getElem?_eq_getElem hsize]
      rfl
    · rename_i hsize
      have hgap : n - table.size < t.id.toNat + 1 - table.size ↔ n < t.id.toNat := by omega
      rw [Array.getElem?_eq_none (Nat.not_lt.mp hsize), Array.getElem?_replicate, Option.none_or]
      simp only [hgap]

/-- A named type is at a place after an entry iff it is the type entered there, or was at another
place before. -/
theorem getElem?_enter_iff {n : Nat} (hu : u.name ≠ "") :
    (enter table t)[n]? = some u ↔ if n = t.id.toNat then u = t else table[n]? = some u := by
  have hplaceholder : BlockType.placeholder t.id ≠ u := fun h => hu (h ▸ rfl)
  rw [getElem?_enter]
  split
  · rw [Option.some.injEq, eq_comm]
  · cases table[n]? with
    | some v => rfl
    | none =>
      -- a gap is filled by entries without a name
      rw [Option.none_or]
      split <;> simp [hplaceholder]

/-- The named types of a table stand at their own numbers. -/
def Numbered (table : Array BlockType) : Prop :=
  ∀ (n : Nat) (t : BlockType), table[n]? = some t → t.name ≠ "" → t.id.toNat = n

theorem Numbered.mem_iff (h : Numbered table) (hname : t.name ≠ "") :
    t ∈ table ↔ table[t.id.toNat]? = some t := by
  refine ⟨fun ht => ?_, Array.mem_of_getElem?⟩
  obtain ⟨n, hn⟩ := Array.mem_iff_getElem?.mp ht
  rw [h n t hn hname]
  exact hn

theorem Numbered.enter (h : Numbered table) (t : BlockType) : Numbered (enter table t) := by
  intro n u hn hname
  rw [getElem?_enter_iff hname] at hn
  split at hn
  · rename_i hplace
    rw [hn, hplace]
  · exact h n u hn hname

/-- **The named types after an entry** are the type entered and those with other numbers. -/
theorem mem_enter_iff (h : Numbered table) (hu : u.name ≠ "") :
    u ∈ enter table t ↔ u = t ∨ u ∈ table ∧ u.id ≠ t.id := by
  rw [(h.enter t).mem_iff hu, getElem?_enter_iff hu, h.mem_iff hu]
  by_cases hid : u.id = t.id
  · rw [if_pos (congrArg UInt16.toNat hid), or_iff_left fun h => h.2 hid]
  · have hne : u ≠ t := fun heq => hid (congrArg BlockType.id heq)
    rw [if_neg (mt UInt16.toNat_inj.mp hid), or_iff_right hne, and_iff_left hid]

/-! ## A list of definitions -/

/-- The last definition of a list enters its type in the table of the others. -/
theorem tableOf_concat_iff {table' : Array BlockType} :
    tableOf (defs ++ [d]) = .ok table' ↔
      ∃ table, tableOf defs = .ok table ∧
        ∃ t, typeOf table.size d = .ok t ∧ enter table t = table' := by
  rw [tableOf, List.foldlM_append, Checked.bind_eq_ok_iff]
  simp only [List.foldlM_cons, List.foldlM_nil, bind_pure, Checked.map_eq_ok_iff, tableOf]

/-- **The table of a list of definitions.** Its named types stand at their own numbers, each comes
from one of the definitions, and no two of them have the same name. -/
structure Loaded (defs : List BlockDefinition) (table : Array BlockType) : Prop where
  size : table.size ≤ UInt16.size
  number : Numbered table
  source : ∀ t ∈ table, t.name ≠ "" → ∃ d ∈ defs, t = d.entry t.id
  distinct : ∀ t ∈ table, ∀ u ∈ table, t.name ≠ "" → t.name = u.name → t = u

theorem Loaded.enter (h : Loaded defs table) (hname : ∀ d' ∈ defs, d'.name ≠ d.name)
    (id : BlockId) : Loaded (defs ++ [d]) (enter table (d.entry id)) where
  size := by
    have := h.size
    have := id.toNat_lt
    rw [size_enter]
    simp only [BlockDefinition.entry, UInt16.size] at *
    omega
  number := h.number.enter _
  source t ht hne := by
    rcases (mem_enter_iff h.number hne).mp ht with rfl | ⟨ht, -⟩
    · exact ⟨d, by simp, rfl⟩
    · obtain ⟨d', hd', hentry⟩ := h.source t ht hne
      exact ⟨d', List.mem_append_left _ hd', hentry⟩
  distinct t ht u hu hne heq := by
    -- a type of the table before has the name of another definition
    have hother {v : BlockType} (hv : v ∈ table) (hne : v.name ≠ "") : v.name ≠ d.name := by
      obtain ⟨d', hd', hentry⟩ := h.source v hv hne
      rw [hentry]
      exact hname d' hd'
    rcases (mem_enter_iff h.number hne).mp ht with rfl | ⟨ht, -⟩ <;>
      rcases (mem_enter_iff h.number (heq ▸ hne)).mp hu with rfl | ⟨hu, -⟩
    · rfl
    · exact absurd heq.symm (hother hu (heq ▸ hne))
    · exact absurd heq (hother ht hne)
    · exact h.distinct t ht u hu hne heq

theorem nodup_of_concat (h : ((defs ++ [d]).map BlockDefinition.name).Nodup) :
    (defs.map BlockDefinition.name).Nodup ∧ ∀ d' ∈ defs, d'.name ≠ d.name := by
  rw [List.map_append, List.nodup_append] at h
  exact ⟨h.1, fun d' hd' => h.2.2 _ (List.mem_map_of_mem hd') _ (by simp)⟩

theorem loaded_of_tableOf (hnames : (defs.map BlockDefinition.name).Nodup)
    (h : tableOf defs = .ok table) : Loaded defs table := by
  induction defs using List.reverseRecOn generalizing table with
  | nil =>
    rw [← Except.ok.inj h]
    exact ⟨Nat.zero_le _, by simp [Numbered], by simp, by simp⟩
  | append_singleton defs d ih =>
    obtain ⟨before, hbefore, t, ht, rfl⟩ := tableOf_concat_iff.mp h
    obtain ⟨hnodup, hname⟩ := nodup_of_concat hnames
    rw [eq_entry_of_typeOf ht]
    exact (ih hnodup hbefore).enter hname _

/-! ## Numbers that are taken -/

/-- A number of a table stands for a named type. -/
def Taken (table : Array BlockType) (id : BlockId) : Prop :=
  ∃ t ∈ table[id.toNat]?, t.name ≠ ""

instance (table : Array BlockType) (id : BlockId) : Decidable (Taken table id) :=
  inferInstanceAs (Decidable (∃ t ∈ table[id.toNat]?, t.name ≠ ""))

theorem Loaded.taken_iff (h : Loaded defs table) :
    Taken table id ↔ ∃ t ∈ table, t.name ≠ "" ∧ t.id = id := by
  constructor
  · rintro ⟨t, hget, hname⟩
    have hid := h.number _ t hget hname
    exact ⟨t, Array.mem_of_getElem? hget, hname, UInt16.toNat_inj.mp hid⟩
  · rintro ⟨t, ht, hname, rfl⟩
    exact ⟨t, (h.number.mem_iff hname).mp ht, hname⟩

/-- A definition of a list is read when the definitions before it have made up a table. -/
def Meets (defs : List BlockDefinition) (table : Array BlockType) (d : BlockDefinition) : Prop :=
  ∃ before after, defs = before ++ d :: after ∧ tableOf before = .ok table

theorem not_meets_nil : ¬ Meets [] table d := by
  rintro ⟨before, after, heq, -⟩
  simp at heq

theorem meets_concat_iff {d' : BlockDefinition} : Meets (defs ++ [d]) table d' ↔
    Meets defs table d' ∨ d' = d ∧ tableOf defs = .ok table := by
  constructor
  · rintro ⟨before, after, heq, htable⟩
    cases after using List.reverseRecOn with
    | nil =>
      obtain ⟨rfl, hd⟩ := List.append_inj' heq rfl
      exact .inr ⟨(List.singleton_inj.mp hd).symm, htable⟩
    | append_singleton after last =>
      rw [← List.cons_append, ← List.append_assoc] at heq
      exact .inl ⟨before, after, (List.append_inj' heq rfl).1, htable⟩
  · rintro (⟨before, after, rfl, htable⟩ | ⟨rfl, htable⟩)
    · exact ⟨before, after ++ [d], by simp, htable⟩
    · exact ⟨defs, [], rfl, htable⟩

/-- Each definition gets a number that no definition before it has. -/
def NumbersApart (defs : List BlockDefinition) : Prop :=
  ∀ table d, Meets defs table d → ¬ Taken table (d.number table.size)

theorem numbersApart_concat_iff (h : tableOf defs = .ok table) :
    NumbersApart (defs ++ [d]) ↔ NumbersApart defs ∧ ¬ Taken table (d.number table.size) := by
  constructor
  · intro happart
    exact ⟨fun table' d' hmeets => happart table' d' (meets_concat_iff.mpr (.inl hmeets)),
      happart table d (meets_concat_iff.mpr (.inr ⟨rfl, h⟩))⟩
  · rintro ⟨happart, hfree⟩ table' d' hmeets
    rcases meets_concat_iff.mp hmeets with hmeets | ⟨rfl, htable⟩
    · exact happart table' d' hmeets
    · rw [← Except.ok.inj (h.symm.trans htable)]
      exact hfree

/-- A table has the type of a definition. -/
def Keeps (table : Array BlockType) (d : BlockDefinition) : Prop :=
  ∃ id, d.entry id ∈ table

/-- All definitions stay through one more iff it gets a number that is not taken. -/
theorem Loaded.keeps_enter_iff (h : Loaded defs table) (hnamed : ∀ d ∈ defs, d.name ≠ "")
    (hd : d.name ≠ "") (hname : ∀ d' ∈ defs, d'.name ≠ d.name) (id : BlockId) :
    (∀ d' ∈ defs ++ [d], Keeps (Registry.enter table (d.entry id)) d') ↔
      (∀ d' ∈ defs, Keeps table d') ∧ ¬ Taken table id := by
  -- what is kept of the definitions before is what they had, apart from the number entered
  have hkeeps {d'} (hd' : d' ∈ defs) : Keeps (Registry.enter table (d.entry id)) d' ↔
      ∃ id', d'.entry id' ∈ table ∧ id' ≠ id := by
    refine exists_congr fun id' => ?_
    have hne : d'.entry id' ≠ d.entry id := fun heq => hname d' hd' (congrArg BlockType.name heq)
    rw [mem_enter_iff h.number (hnamed d' hd'), or_iff_right hne]
    rfl
  constructor
  · intro hall
    have hbefore (d') (hd' : d' ∈ defs) := (hkeeps hd').mp (hall d' (List.mem_append_left _ hd'))
    refine ⟨fun d' hd' => (hbefore d' hd').imp fun _ => And.left, fun htaken => ?_⟩
    obtain ⟨t, ht, htname, rfl⟩ := h.taken_iff.mp htaken
    obtain ⟨d', hd', hentry⟩ := h.source t ht htname
    obtain ⟨id', hmem, hid'⟩ := hbefore d' hd'
    have hname' : t.name = d'.name := congrArg BlockType.name hentry
    have hsame := h.distinct t ht _ hmem htname hname'
    exact hid' (congrArg BlockType.id hsame).symm
  · rintro ⟨hall, hfree⟩ d' hd'
    rcases List.mem_append.mp hd' with hd' | hd'
    · obtain ⟨id', hmem⟩ := hall d' hd'
      refine (hkeeps hd').mpr ⟨id', hmem, ?_⟩
      rintro rfl
      exact hfree (h.taken_iff.mpr ⟨_, hmem, hnamed d' hd', rfl⟩)
    · rw [List.mem_singleton.mp hd']
      exact ⟨id, (mem_enter_iff h.number hd).mpr (.inl rfl)⟩

/-- **All definitions stay iff each gets a number that no definition before it has.** -/
theorem keeps_all_iff (hnames : (defs.map BlockDefinition.name).Nodup)
    (hnamed : ∀ d ∈ defs, d.name ≠ "") (h : tableOf defs = .ok table) :
    (∀ d ∈ defs, Keeps table d) ↔ NumbersApart defs := by
  induction defs using List.reverseRecOn generalizing table with
  | nil =>
    exact iff_of_true (fun d hd => absurd hd List.not_mem_nil) fun _ _ hmeets =>
      absurd hmeets not_meets_nil
  | append_singleton defs d ih =>
    obtain ⟨before, hbefore, t, ht, rfl⟩ := tableOf_concat_iff.mp h
    obtain ⟨hnodup, hname⟩ := nodup_of_concat hnames
    have hnamed' (d') (hd' : d' ∈ defs) := hnamed d' (List.mem_append_left [d] hd')
    rw [eq_entry_of_typeOf ht, numbersApart_concat_iff hbefore, ← ih hnodup hnamed' hbefore]
    exact (loaded_of_tableOf hnodup hbefore).keeps_enter_iff hnamed' (hnamed d (by simp)) hname _

/-! ## Names -/

/-- The last pair of a key is found in pairs that were entered one after the other. -/
theorem getElem?_foldl_insert_last {β : Type} {pairs : List (String × β)} {key : String}
    {map : Std.HashMap String β} :
    (pairs.foldl (fun map p => map.insert p.1 p.2) map)[key]? =
      (pairs.reverse.findSome? fun p => if p.1 = key then some p.2 else none).or map[key]? := by
  induction pairs generalizing map with
  | nil => rfl
  | cons p rest ih =>
    rw [List.foldl_cons, ih, List.reverse_cons, List.findSome?_append, Option.or_assoc,
      Std.HashMap.getElem?_insert]
    congr 1
    by_cases hkey : p.1 = key <;> simp [hkey]

/-- What is found in pairs that were entered one after the other, if no key has two values. -/
theorem getElem?_foldl_insert {β : Type} {pairs : List (String × β)} {key : String} {value : β}
    (h : ∀ p ∈ pairs, ∀ q ∈ pairs, p.1 = q.1 → p.2 = q.2) :
    (pairs.foldl (fun map p => map.insert p.1 p.2) (∅ : Std.HashMap String β))[key]? =
      some value ↔ (key, value) ∈ pairs := by
  rw [getElem?_foldl_insert_last, Std.HashMap.getElem?_empty, Option.or_none]
  constructor
  · intro hfound
    obtain ⟨⟨key', value'⟩, hmem, hgives⟩ := List.exists_of_findSome?_eq_some hfound
    obtain ⟨rfl, rfl⟩ : key' = key ∧ value' = value := by simpa using hgives
    exact List.mem_reverse.mp hmem
  · intro hmem
    cases hfound : pairs.reverse.findSome? fun p => if p.1 = key then some p.2 else none with
    | none =>
      have hnone := List.findSome?_eq_none_iff.mp hfound _ (List.mem_reverse.mpr hmem)
      simp at hnone
    | some value' =>
      obtain ⟨p, hp, hgives⟩ := List.exists_of_findSome?_eq_some hfound
      obtain ⟨hkey, hvalue⟩ : p.1 = key ∧ p.2 = value' := by simpa using hgives
      rw [← hvalue, h p (List.mem_reverse.mp hp) _ hmem hkey]

/-- The numbers of names are entered for the named types alone. -/
theorem namesOf_eq (table : Array BlockType) : namesOf table =
    ((table.toList.filter fun t => !t.name.isEmpty).map fun t => (t.name, t.id)).foldl
      (fun names p => names.insert p.1 p.2) ∅ := by
  rw [namesOf, ← Array.foldl_toList, List.foldl_map, List.foldl_filter]
  congr 1
  funext names t
  cases t.name.isEmpty <;> rfl

/-- The number of a name is that of the type that has it. -/
theorem Loaded.getElem?_namesOf (h : Loaded defs table) {name : String} :
    (namesOf table)[name]? = some id ↔ ∃ t ∈ table, t.name ≠ "" ∧ t.name = name ∧ t.id = id := by
  rw [namesOf_eq, getElem?_foldl_insert]
  · simp [and_assoc]
  · simp only [List.mem_map, List.mem_filter, Array.mem_toList_iff]
    rintro p ⟨t, ⟨ht, hne⟩, rfl⟩ q ⟨u, ⟨hu, -⟩, rfl⟩ hname
    rw [h.distinct t ht u hu (by simpa using hne) hname]

variable {cfg : RegistryConfig} {reg : Registry}

/-- A definition is found by its name: its name has a number, and that number its type. -/
def Knows (reg : Registry) (d : BlockDefinition) : Prop :=
  ∃ id, reg.idOf? d.name = some id ∧ reg.get? id = some (d.entry id)

/-- A registry is made of the table of its definitions and of what its names lead to. -/
theorem build_eq_ok_iff : build cfg = .ok reg ↔ ∃ table, tableOf cfg.blocks = .ok table ∧
    reg = ⟨table, namesOf table, cfg.biomes.toArray, tagsOf cfg.biomes,
      cfg.unknownBlock.bind fun name => (namesOf table)[name]?⟩ := by
  rw [build, Checked.bind_eq_ok_iff]
  simp only [pure, Except.pure, Except.ok.injEq, eq_comm]

theorem types_of_build (h : build cfg = .ok reg) : tableOf cfg.blocks = .ok reg.types := by
  obtain ⟨table, htable, rfl⟩ := build_eq_ok_iff.mp h
  exact htable

theorem exists_build (h : tableOf cfg.blocks = .ok table) :
    ∃ reg, build cfg = .ok reg ∧ reg.types = table :=
  ⟨_, build_eq_ok_iff.mpr ⟨table, h, rfl⟩, rfl⟩

theorem loaded_of_build (hnames : (cfg.blocks.map BlockDefinition.name).Nodup)
    (hbuild : build cfg = .ok reg) : Loaded cfg.blocks reg.types :=
  loaded_of_tableOf hnames (types_of_build hbuild)

/-- The number of a name of a registry is that of the type that has it. -/
theorem idOf?_eq_some_iff (hnames : (cfg.blocks.map BlockDefinition.name).Nodup)
    (hbuild : build cfg = .ok reg) {name : String} : reg.idOf? name = some id ↔
      ∃ t, reg.get? id = some t ∧ t.name ≠ "" ∧ t.name = name := by
  have hloaded := loaded_of_build hnames hbuild
  have hid : reg.idOf? name = (namesOf reg.types)[name]? := by
    obtain ⟨table, -, rfl⟩ := build_eq_ok_iff.mp hbuild
    rfl
  rw [hid, hloaded.getElem?_namesOf]
  constructor
  · rintro ⟨t, ht, hne, rfl, rfl⟩
    exact ⟨t, (hloaded.number.mem_iff hne).mp ht, hne, rfl⟩
  · rintro ⟨t, hget, hne, rfl⟩
    have hnumber := hloaded.number _ t hget hne
    exact ⟨t, Array.mem_of_getElem? hget, hne, rfl, UInt16.toNat_inj.mp hnumber⟩

/-- A named definition is found by its name iff its type is in the table. -/
theorem knows_iff (hnames : (cfg.blocks.map BlockDefinition.name).Nodup)
    (hbuild : build cfg = .ok reg) (hd : d.name ≠ "") : reg.Knows d ↔ Keeps reg.types d := by
  refine exists_congr fun id => ?_
  constructor
  · rintro ⟨-, hget⟩
    exact Array.mem_of_getElem? hget
  · intro hmem
    have hget := ((loaded_of_build hnames hbuild).number.mem_iff hd).mp hmem
    exact ⟨(idOf?_eq_some_iff hnames hbuild).mpr ⟨_, hget, hd, rfl⟩, hget⟩

/-- **All definitions are found by their names iff each gets a number of its own.** -/
theorem knows_all_iff (hnames : (cfg.blocks.map BlockDefinition.name).Nodup)
    (hnamed : ∀ d ∈ cfg.blocks, d.name ≠ "") (hbuild : build cfg = .ok reg) :
    (∀ d ∈ cfg.blocks, reg.Knows d) ↔ NumbersApart cfg.blocks := by
  rw [← keeps_all_iff hnames hnamed (types_of_build hbuild)]
  exact forall₂_congr fun d hd => knows_iff hnames hbuild (hnamed d hd)

end Registry

end PlotGrid
