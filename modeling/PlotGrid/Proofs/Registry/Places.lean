import PlotGrid.Proofs.Registry.Survival

/-!
# Places of a registry

Each place of a table is taken by the last definition that gets its number. A place that no
definition gets was filled when a definition with a greater number made room, and its entry carries
that number instead of its own.

- `BlockDefinition.numbered`, `BlockDefinition.lastAt?`, `BlockDefinition.beyond?`: the numbers of
  a list of definitions, the definition that has a number in the end, and the one that made room.
- `Registry.getElem?_foldlM_enter`, `Registry.get?_eq`: what is at a place after all definitions.
- `Registry.get?_of_lt`, `Registry.id_eq_iff_gives`: places that a definition gets, and gaps.
- `entries_know_their_numbers_iff`: the entries that carry their own numbers.
- `gaps_carry_another_number`: a gap in front of a lamp.
-/

namespace PlotGrid

/-! ## The numbers of definitions -/

namespace BlockDefinition

/-- Definitions with the numbers that they get where they find a table of some length. -/
def numbered (taken : Nat) : List BlockDefinition → List (BlockId × BlockDefinition)
  | [] => []
  | d :: rest => (d.number taken, d) :: numbered (max taken ((d.number taken).toNat + 1)) rest

/-- The definition that has a number in the end: the last one of a list that gets it. -/
def lastAt? (defs : List BlockDefinition) (id : BlockId) : Option BlockDefinition :=
  (numbered 0 defs).reverse.findSome? fun p => if p.1 = id then some p.2 else none

/-- The number that made room for another: the first one of a list that is greater. -/
def beyond? (defs : List BlockDefinition) (id : BlockId) : Option BlockId :=
  (numbered 0 defs).findSome? fun p => if id < p.1 then some p.1 else none

end BlockDefinition

/-- A definition gets the number. -/
def RegistryConfig.Gives (cfg : RegistryConfig) (id : BlockId) : Prop :=
  ∃ d, (id, d) ∈ BlockDefinition.numbered 0 cfg.blocks

/-! ## What is at a place -/

namespace Registry

variable {cfg : RegistryConfig} {reg : Registry} {defs : List BlockDefinition}
  {table table' : Array BlockType} {id : BlockId}

/-- **What is at a place after a run of definitions**: the type of the last one that gets its
number, or what was there before, or else the entry with which the first one beyond it made room. -/
theorem getElem?_foldlM_enter (id : BlockId)
    (h : defs.foldlM (fun table d => (typeOf table.size d).map (enter table)) table = .ok table') :
    table'[id.toNat]? =
      ((BlockDefinition.numbered table.size defs).reverse.findSome? fun p =>
        if p.1 = id then some (p.2.entry id) else none).or (table[id.toNat]?.or
      ((BlockDefinition.numbered table.size defs).findSome? fun p =>
        if id < p.1 then some (BlockType.placeholder p.1) else none)) := by
  induction defs generalizing table with
  | nil =>
    rw [← Except.ok.inj h]
    show _ = Option.or none (table[id.toNat]?.or none)
    rw [Option.none_or, Option.or_none]
  | cons d rest ih =>
    rw [List.foldlM_cons] at h
    obtain ⟨next, hnext, h⟩ := Checked.bind_eq_ok_iff.mp h
    obtain ⟨u, hu, rfl⟩ := Checked.map_eq_ok_iff.mp hnext
    have hentry := eq_entry_of_typeOf hu
    have hsize : (enter table u).size = max table.size ((d.number table.size).toNat + 1) := by
      rw [size_enter, hentry]
      rfl
    rw [ih h, hsize, BlockDefinition.numbered, List.reverse_cons, List.findSome?_append,
      Option.or_assoc]
    -- a later definition hides the first one and the table before
    cases (BlockDefinition.numbered (max table.size ((d.number table.size).toNat + 1)) rest).reverse
        |>.findSome? fun p => if p.1 = id then some (p.2.entry id) else none with
    | some v => rw [Option.some_or, Option.some_or]
    | none =>
      have hown : (d.entry (d.number table.size)).id = d.number table.size := rfl
      rw [Option.none_or, Option.none_or, getElem?_enter, hentry, hown, List.findSome?_cons,
        List.findSome?_cons]
      by_cases hid : d.number table.size = id
      · subst hid
        simp
      · have hne : id.toNat ≠ (d.number table.size).toNat := fun heq =>
          hid (UInt16.toNat_inj.mp heq).symm
        rw [if_neg hne, if_neg hid, Option.or_assoc]
        by_cases hlt : id < d.number table.size
        · rw [if_pos hlt, if_pos (UInt16.lt_iff_toNat_lt.mp hlt)]
          rfl
        · rw [if_neg hlt, if_neg (mt UInt16.lt_iff_toNat_lt.mpr hlt)]
          rfl

/-- **The entries of a registry**: the types of the last definitions that get their numbers, and
between them those that made room. -/
theorem get?_eq (hbuild : build cfg = .ok reg) (id : BlockId) :
    reg.get? id = ((BlockDefinition.lastAt? cfg.blocks id).map (BlockDefinition.entry · id)).or
      ((BlockDefinition.beyond? cfg.blocks id).map BlockType.placeholder) := by
  have hplace := getElem?_foldlM_enter id (types_of_build hbuild)
  rw [Array.getElem?_empty, Option.none_or] at hplace
  rw [get?, hplace, BlockDefinition.lastAt?, BlockDefinition.beyond?, List.map_findSome?,
    List.map_findSome?]
  congr 1
  · congr 1
    funext p
    show _ = (if p.1 = id then some p.2 else none).map _
    split <;> rfl
  · congr 1
    funext p
    show _ = (if id < p.1 then some p.1 else none).map _
    split <;> rfl

/-! ## Places with and without a definition -/

theorem lastAt?_eq_none_iff : BlockDefinition.lastAt? cfg.blocks id = none ↔ ¬ cfg.Gives id := by
  rw [BlockDefinition.lastAt?, List.findSome?_eq_none_iff]
  constructor
  · rintro hnone ⟨d, hd⟩
    simpa using hnone _ (List.mem_reverse.mpr hd)
  · intro hnot p hp
    rw [if_neg]
    rintro rfl
    exact hnot ⟨p.2, List.mem_reverse.mp hp⟩

theorem lt_of_beyond? {other : BlockId}
    (h : BlockDefinition.beyond? cfg.blocks id = some other) : id < other := by
  obtain ⟨p, -, hp⟩ := List.exists_of_findSome?_eq_some h
  split at hp
  · rename_i hlt
    rwa [← Option.some.inj hp]
  · cases hp

/-- No table is longer than there are numbers. -/
theorem size_le_of_tableOf (h : tableOf defs = .ok table) : table.size ≤ UInt16.size := by
  induction defs using List.reverseRecOn generalizing table with
  | nil =>
    rw [← Except.ok.inj h]
    exact Nat.zero_le _
  | append_singleton defs d ih =>
    obtain ⟨before, hbefore, t, -, rfl⟩ := tableOf_concat_iff.mp h
    rw [size_enter]
    exact Nat.max_le.mpr ⟨ih hbefore, t.id.toNat_lt⟩

/-- **Each place is that of a definition or a gap in front of one.** -/
theorem get?_of_lt (hbuild : build cfg = .ok reg) (hlt : id.toNat < reg.types.size) :
    (∃ d, BlockDefinition.lastAt? cfg.blocks id = some d ∧ reg.get? id = some (d.entry id)) ∨
      ¬ cfg.Gives id ∧ ∃ other, BlockDefinition.beyond? cfg.blocks id = some other ∧
        id < other ∧ reg.get? id = some (.placeholder other) := by
  have hget := get?_eq hbuild id
  cases hlast : BlockDefinition.lastAt? cfg.blocks id with
  | some d =>
    rw [hlast] at hget
    exact .inl ⟨d, rfl, hget⟩
  | none =>
    refine .inr ⟨lastAt?_eq_none_iff.mp hlast, ?_⟩
    rw [hlast] at hget
    cases hbeyond : BlockDefinition.beyond? cfg.blocks id with
    | some other =>
      rw [hbeyond] at hget
      exact ⟨other, rfl, lt_of_beyond? hbeyond, hget⟩
    | none =>
      rw [hbeyond, get?, Array.getElem?_eq_getElem hlt] at hget
      cases hget

/-- **An entry carries its own number iff a definition gets it.** -/
theorem id_eq_iff_gives (hbuild : build cfg = .ok reg) {t : BlockType}
    (hget : reg.get? id = some t) : t.id = id ↔ cfg.Gives id := by
  have hlt : id.toNat < reg.types.size := (Array.getElem?_eq_some_iff.mp hget).1
  rcases get?_of_lt hbuild hlt with ⟨d, hlast, hd⟩ | ⟨hnot, other, -, hbeyond, hother⟩
  · have hgives : cfg.Gives id := by
      by_contra hnot
      cases (lastAt?_eq_none_iff.mpr hnot).symm.trans hlast
    obtain rfl := Option.some.inj (hd.symm.trans hget)
    exact iff_of_true rfl hgives
  · obtain rfl := Option.some.inj (hother.symm.trans hget)
    refine iff_of_false ?_ hnot
    rintro rfl
    exact UInt16.lt_irrefl _ hbeyond

end Registry

/-- **Entries know their numbers iff the definitions leave no gap.** Every place of a registry has
a number. The entry of one that a definition gets is that of the last such definition and has the
number of its place. The entry of one that no definition gets has no name and carries the first
number beyond it that made room. So all entries have the numbers of their places iff each place is
that of a definition. -/
theorem entries_know_their_numbers_iff {cfg : RegistryConfig} {reg : Registry}
    (hbuild : Registry.build cfg = .ok reg) :
    reg.types.size ≤ UInt16.size ∧
    (∀ id : BlockId, id.toNat < reg.types.size →
      (∃ d, BlockDefinition.lastAt? cfg.blocks id = some d ∧ reg.get? id = some (d.entry id)) ∨
        ¬ cfg.Gives id ∧ ∃ other, BlockDefinition.beyond? cfg.blocks id = some other ∧
          id < other ∧ reg.get? id = some (.placeholder other)) ∧
    (∀ id t, reg.get? id = some t → (t.id = id ↔ cfg.Gives id)) ∧
    ((∀ id : BlockId, id.toNat < reg.types.size → ∃ t, reg.get? id = some t ∧ t.id = id) ↔
      ∀ id : BlockId, id.toNat < reg.types.size → cfg.Gives id) := by
  refine ⟨Registry.size_le_of_tableOf (Registry.types_of_build hbuild),
    fun id hlt => Registry.get?_of_lt hbuild hlt,
    fun id t hget => Registry.id_eq_iff_gives hbuild hget, ?_⟩
  refine forall₂_congr fun id hlt => ?_
  have hget : reg.get? id = some reg.types[id.toNat] := Array.getElem?_eq_getElem hlt
  constructor
  · rintro ⟨t, ht, hid⟩
    exact (Registry.id_eq_iff_gives hbuild ht).mp hid
  · intro hgives
    exact ⟨_, hget, (Registry.id_eq_iff_gives hbuild hget).mpr hgives⟩

/-- The lamp of the grove knows its number, and the gap in front of it does not. -/
theorem entries_know_their_numbers_of_grove : ∃ reg, Registry.build .grove = .ok reg ∧
    (∃ t, reg.get? 3 = some t ∧ t.id = 3) ∧
    ¬ ∀ id : BlockId, id.toNat < reg.types.size → ∃ t, reg.get? id = some t ∧ t.id = id := by
  have hbuild : ∃ reg, Registry.build .grove = .ok reg ∧ reg.types.size = 5 := ⟨_, rfl, rfl⟩
  obtain ⟨reg, hbuild, hsize⟩ := hbuild
  obtain ⟨-, hplaces, hknows, hall⟩ := entries_know_their_numbers_iff hbuild
  have hnumbers : BlockDefinition.numbered 0 RegistryConfig.grove.blocks =
      [(0, .plain "air" (some 0)), (3, ⟨"lamp", some 3, .ofList [("lit", ["false", "true"])]⟩),
        (4, .plain "stone" none)] := rfl
  refine ⟨reg, hbuild, ?_, fun hown => ?_⟩
  · have hlamp : RegistryConfig.grove.Gives 3 :=
      ⟨_, hnumbers ▸ List.mem_cons_of_mem _ List.mem_cons_self⟩
    rcases hplaces 3 (by rw [hsize]; decide) with ⟨d, -, hget⟩ | ⟨hnot, -⟩
    · exact ⟨_, hget, (hknows 3 _ hget).mpr hlamp⟩
    · exact absurd hlamp hnot
  · obtain ⟨d, hd⟩ := hall.mp hown 1 (by rw [hsize]; decide)
    rw [hnumbers] at hd
    simp at hd

/-- The entry behind air carries the number of the lamp that made room for it. -/
theorem gaps_carry_another_number : ∃ reg, Registry.build .grove = .ok reg ∧
    (1 : BlockId).toNat < reg.types.size ∧ reg.get? 1 = some (.placeholder 3) ∧
    (BlockType.placeholder 3).id ≠ 1 :=
  ⟨_, rfl, by decide, rfl, by decide⟩

end PlotGrid
