import PlotGrid.Proofs.Registry.Codec

/-!
# Reading block keys back

A key is written as a name and a list of pairs in brackets. Reading it cuts the text at the
brackets, the commas and the equality signs, so it gives back the name and the pairs if none of
them holds such a sign where it would be cut, or a blank where it would be trimmed. Together with
the packing of states a block comes back from its key.

- `Text.Tight`, `Text.pieces_intercalate`: texts without blanks around them, and texts that are
  put together from parts.
- `BlockKey.Readable`, `BlockKey.parse_text`: pairs that are read as they are written, and keys of
  them.
- `BlockType.Readable`: a type whose blocks have keys that can be read.
- `keys_read_back`: the block of a printed key.
-/

namespace PlotGrid

/-! ## Texts -/

namespace Text

variable {s : List Char} {c : Char}

/-- A text with no blank at either end. -/
def Tight (s : List Char) : Prop :=
  (∀ c ∈ s.head?, isBlank c = false) ∧ ∀ c ∈ s.getLast?, isBlank c = false

-- the ends are looked at, where the other instance would go through all characters
instance (s : List Char) : Decidable (Tight s) :=
  @instDecidableAnd _ _ (Option.decidableForallMem s.head?) (Option.decidableForallMem s.getLast?)

theorem dropWhile_isBlank (h : ∀ c ∈ s.head?, isBlank c = false) :
    s.dropWhile isBlank = s := by
  cases s with
  | nil => rfl
  | cons c rest => exact List.dropWhile_cons_of_neg (Bool.eq_false_iff.mp (h c rfl))

/-- Trimming keeps a text with no blank at either end. -/
theorem trim_of_tight (h : Tight s) : trim s = s := by
  have hreverse : ∀ c ∈ s.reverse.head?, isBlank c = false := by
    rw [List.head?_reverse]
    exact h.2
  rw [trim, dropWhile_isBlank h.1, trimRight, dropWhile_isBlank hreverse, List.reverse_reverse]

/-- A text is cut into the parts that it is put together from. -/
theorem pieces_intercalate {parts : List (List Char)} (hne : parts ≠ [])
    (h : ∀ part ∈ parts, c ∉ part) : pieces c ([c].intercalate parts) = parts := by
  induction parts with
  | nil => exact absurd rfl hne
  | cons part rest ih =>
    have hpart := h part List.mem_cons_self
    cases rest with
    | nil => rw [List.intercalate_singleton, pieces_of_notMem hpart]
    | cons next more =>
      have hrest := ih (List.cons_ne_nil next more) fun p hp => h p (List.mem_cons_of_mem part hp)
      rw [List.intercalate_cons_cons, List.append_assoc, List.singleton_append,
        pieces_append _ hpart, hrest]

end Text

/-! ## Keys -/

/-- The default namespace is taken away once. -/
theorem stripNamespace_append (name : String) : stripNamespace ("minecraft:" ++ name) = name := by
  have hprefix : defaultNamespace.isPrefixOf ("minecraft:" ++ name).toList = true := by
    rw [String.toList_append]
    exact List.isPrefixOf_iff_prefix.mpr (List.prefix_append _ _)
  rw [stripNamespace, if_pos hprefix, String.toList_append]
  show String.ofList (List.drop defaultNamespace.length (defaultNamespace ++ name.toList)) = name
  rw [List.drop_left, String.ofList_toList]

theorem stripNamespace_of_not_prefix {name : String} (h : ¬ defaultNamespace <+: name.toList) :
    stripNamespace name = name :=
  if_neg fun hprefix => h (List.isPrefixOf_iff_prefix.mp hprefix)

/-- A name that has the default namespace in front is not what is left of it. -/
theorem stripNamespace_eq_self_iff {name : String} :
    stripNamespace name = name ↔ ¬ defaultNamespace <+: name.toList := by
  refine ⟨fun heq hprefix => ?_, stripNamespace_of_not_prefix⟩
  rw [stripNamespace, if_pos (List.isPrefixOf_iff_prefix.mpr hprefix)] at heq
  have hlength := congrArg (fun s => s.toList.length) heq
  have hle := hprefix.length_le
  have hpos : 0 < defaultNamespace.length := by decide
  simp only [String.toList_ofList, List.length_drop] at hlength
  omega

namespace BlockKey

variable {base : String} {pairs : List (String × String)} {p : String × String}

/-- A pair as it is written. -/
def pairText (p : String × String) : List Char :=
  p.1.toList ++ '=' :: p.2.toList

/-- A pair that is read as it is written. -/
structure Readable (p : String × String) : Prop where
  name : ',' ∉ p.1.toList ∧ '=' ∉ p.1.toList ∧ Text.Tight p.1.toList
  value : ',' ∉ p.2.toList ∧ Text.Tight p.2.toList

theorem Readable.not_mem (h : Readable p) : ',' ∉ pairText p := by
  simp [pairText, h.name.1, h.value.1]

theorem toList_propsText (hne : pairs ≠ []) :
    (propsText pairs).toList = '[' :: ([','].intercalate (pairs.map pairText) ++ [']']) := by
  have hpair : (pairs.map fun p => p.1 ++ "=" ++ p.2).map String.toList = pairs.map pairText := by
    rw [List.map_map]
    refine List.map_congr_left fun p _ => ?_
    simp [pairText]
  rw [propsText, if_neg (by simpa using hne)]
  simp [String.toList_append, String.toList_intercalate, hpair]

/-- Reading a written pair enters it. -/
theorem enter_pairText (h : Readable p) (props : Properties) :
    enter props (pairText p) = props.insert p.1 p.2 := by
  rw [enter, pairText, Text.cut?_append _ h.name.2.1]
  simp only [Text.trim_of_tight h.name.2.2, Text.trim_of_tight h.value.2, String.ofList_toList]

theorem foldl_enter (h : ∀ p ∈ pairs, Readable p) (props : Properties) :
    (pairs.map pairText).foldl enter props = props.insertMany pairs := by
  induction pairs generalizing props with
  | nil => rfl
  | cons p rest ih =>
    rw [List.map_cons, List.foldl_cons, enter_pairText (h p List.mem_cons_self),
      ih fun q hq => h q (List.mem_cons_of_mem p hq)]
    exact Std.TreeMap.insertMany_cons.symm

/-- Written pairs are read. -/
theorem parseProps_intercalate (hne : pairs ≠ []) (h : ∀ p ∈ pairs, Readable p) :
    parseProps ([','].intercalate (pairs.map pairText)) = .ofList pairs := by
  have hparts : ∀ part ∈ pairs.map pairText, ',' ∉ part := by
    intro part hpart
    obtain ⟨p, hp, rfl⟩ := List.mem_map.mp hpart
    exact (h p hp).not_mem
  rw [parseProps, Text.pieces_intercalate (by simpa using hne) hparts, foldl_enter h]
  exact Std.TreeMap.ofList_eq_insertMany_empty.symm

/-- **A key is read as it is written**, in whatever order its pairs are. -/
theorem parse_text (hbase : '[' ∉ base.toList) (h : ∀ p ∈ pairs, Readable p) :
    parse (base ++ propsText pairs) = ⟨base, .ofList pairs⟩ := by
  by_cases hnil : pairs = []
  · subst hnil
    have hkey : base ++ propsText [] = base := String.append_empty
    rw [hkey, parse, Text.cut?_eq_none_iff.mpr hbase, Std.TreeMap.ofList_nil]
  · rw [parse, String.toList_append, toList_propsText hnil, Text.cut?_append _ hbase]
    dsimp only
    rw [dropBracket, if_pos List.getLast?_concat, List.dropLast_concat,
      parseProps_intercalate hnil h, String.ofList_toList]

end BlockKey

/-! ## Blocks -/

namespace BlockType

variable {t : BlockType} {s : UInt16} {pairs : List (String × String)}

/-- **A type whose blocks have keys that can be read.** Its name has no bracket and does not have
the default namespace in front; the signs that part the pairs of a key are not in the names of its
properties, and commas not in their values; no name or value of a property has blanks around it;
and the values of each property are different. -/
structure Readable (t : BlockType) : Prop where
  name : '[' ∉ t.name.toList ∧ ¬ defaultNamespace <+: t.name.toList
  property : ∀ f ∈ t.fields,
    ',' ∉ f.name.toList ∧ '=' ∉ f.name.toList ∧ Text.Tight f.name.toList
  value : ∀ f ∈ t.fields, ∀ value ∈ f.values, ',' ∉ value.toList ∧ Text.Tight value.toList
  distinct : ∀ f ∈ t.fields, f.values.Nodup

/-- What a state shows can be read. -/
theorem Readable.pair (hread : t.Readable) (ht : Layout.Sound t.fields) :
    ∀ p ∈ t.shown s, BlockKey.Readable p := by
  rintro ⟨prop, value⟩ hp
  obtain ⟨f, hf, hvalue⟩ := Option.bind_eq_some_iff.mp ((mem_shown_iff ht).mp hp)
  obtain ⟨hmem, rfl⟩ := mem_of_field? hf
  exact ⟨hread.property f hmem, hread.value f hmem value (List.mem_of_getElem? hvalue)⟩

/-- A state that shows nothing is zero. -/
theorem eq_zero_of_shown (ht : Layout.Sound t.fields) (hs : t.Decodes s)
    (hrest : ∀ i, ¬ Layout.Holds t.fields i → s.toNat.testBit i = false)
    (hnone : t.shown s = []) : s = 0 := by
  have hcodes : ∀ f ∈ t.fields, f.code s = f.code 0 := by
    intro f hf
    have hnil : f.values = [] := by
      refine (listed_of_field? (field?_name ht hf)).symm.trans ((decodes_iff ht).mp hs f.name ?_)
      refine Option.eq_none_iff_forall_ne_some.mpr fun value hvalue => ?_
      have hmem := (mem_shown_iff ht).mpr hvalue
      rw [hnone] at hmem
      exact List.not_mem_nil hmem
    rw [(ht.field f hf).code_of_nil hnil, (ht.field f hf).code_of_nil hnil]
  refine Layout.state_ext hcodes ?_
  intro i hi
  rw [hrest i hi]
  exact (Nat.zero_testBit i).symm

end BlockType

/-- A key without a bracket is looked up as a name without the default namespace, and gives the
block in state zero. -/
theorem Registry.blockOfKey?_of_plain {reg : Registry} {key : String} (h : '[' ∉ key.toList) :
    reg.blockOfKey? key = (reg.idOf? (stripNamespace key)).map fun id => ⟨id, 0⟩ := by
  have hkey : BlockKey.parse key = ⟨key, ∅⟩ := by
    rw [BlockKey.parse, Text.cut?_eq_none_iff.mpr h]
  rw [blockOfKey?, hkey]
  rfl

/-- A key that names a type by what a state shows gives the block of that state. -/
theorem Registry.blockOfKey?_of_parse {reg : Registry} {id : BlockId} {t : BlockType}
    {s : UInt16} {key : String} {pairs : List (String × String)} (ht : Layout.Sound t.fields)
    (hget : reg.get? id = some t) (hnodup : ∀ f ∈ t.fields, f.values.Nodup) (hs : t.Decodes s)
    (hrest : ∀ i, ¬ Layout.Holds t.fields i → s.toNat.testBit i = false)
    (hpairs : pairs.Perm (t.shown s)) (hparse : (BlockKey.parse key).props = .ofList pairs)
    (hid : reg.idOf? (stripNamespace (BlockKey.parse key).base) = some id) :
    reg.blockOfKey? key = some ⟨id, s⟩ := by
  rw [blockOfKey?, hparse, Std.TreeMap.isEmpty_ofList]
  cases pairs with
  | nil =>
    -- without pairs nothing is packed
    rw [BlockType.eq_zero_of_shown ht hs hrest (List.nil_perm.mp hpairs), List.isEmpty_nil,
      if_pos rfl, blockOf?, hid, Option.map_some]
  | cons p rest =>
    have hpack := BlockType.pack_of_value? ht hnodup hs hrest
      (BlockType.getElem?_ofList_of_perm ht hpairs)
    rw [List.isEmpty_cons, if_neg Bool.false_ne_true, blockOf?, hid, Option.map_some, hget]
    dsimp only
    rw [hpack]

/-- **Blocks come back from their keys.** Let a type of a registry be readable and found by its
name, and let the numbers of a state stand for values and all other bits be zero. The key of the
name and of the values that the state shows, in any order, names the block of that state, with the
default namespace in front or without; and it is read as its base and exactly these values. -/
theorem keys_read_back {cfg : RegistryConfig} {reg : Registry}
    (hbuild : Registry.build cfg = .ok reg) {id : BlockId} {t : BlockType}
    (hget : reg.get? id = some t) (hid : reg.idOf? t.name = some id) (hread : t.Readable)
    {s : UInt16} (hs : t.Decodes s)
    (hrest : ∀ i, ¬ Layout.Holds t.fields i → s.toNat.testBit i = false)
    {pairs : List (String × String)} (hpairs : pairs.Perm (t.shown s)) :
    ∀ space ∈ ["", "minecraft:"],
      let key := space ++ t.name ++ BlockKey.propsText pairs
      reg.blockOfKey? key = some ⟨id, s⟩ ∧
      (BlockKey.parse key).base = space ++ t.name ∧
      ∀ prop, (BlockKey.parse key).props[prop]? = t.value? s prop := by
  have ht := Registry.sound_of_get? hbuild hget
  intro space hspace key
  have hparts : '[' ∉ (space ++ t.name).toList ∧ stripNamespace (space ++ t.name) = t.name := by
    rcases List.mem_cons.mp hspace with rfl | hspace
    · rw [String.empty_append]
      exact ⟨hread.name.1, stripNamespace_of_not_prefix hread.name.2⟩
    · rw [List.mem_singleton.mp hspace]
      refine ⟨?_, stripNamespace_append t.name⟩
      simp [String.toList_append, hread.name.1]
  have hparse : BlockKey.parse key = ⟨space ++ t.name, .ofList pairs⟩ :=
    BlockKey.parse_text hparts.1 fun p hp => hread.pair ht p (hpairs.mem_iff.mp hp)
  refine ⟨?_, by rw [hparse], fun prop => ?_⟩
  · refine Registry.blockOfKey?_of_parse ht hget hread.distinct hs hrest hpairs
      (by rw [hparse]) ?_
    rw [hparse, hparts.2]
    exact hid
  · rw [hparse]
    exact BlockType.getElem?_ofList_of_perm ht hpairs prop

/-- A lamp at full charge, with its values in another order than that of the properties. -/
theorem keys_read_back_of_lamp : ∃ reg, Registry.build .lamp = .ok reg ∧
    reg.blockOfKey? "minecraft:lamp[lit=false,charge=full]" = some ⟨2, 2⟩ ∧
    (BlockKey.parse "minecraft:lamp[lit=false,charge=full]").base = "minecraft:lamp" := by
  obtain ⟨reg, hbuild, hget, hid⟩ := RegistryConfig.lamp_build
  have hread : BlockType.lamp.Readable := ⟨by decide, by decide, by decide, by decide⟩
  have hpairs : [("lit", "false"), ("charge", "full")].Perm (BlockType.lamp.shown 2) := by
    have hshown : BlockType.lamp.shown 2 = [("charge", "full"), ("lit", "false")] := by decide
    rw [hshown]
    exact .swap ..
  have hkey : "minecraft:" ++ BlockType.lamp.name ++ BlockKey.propsText
      [("lit", "false"), ("charge", "full")] = "minecraft:lamp[lit=false,charge=full]" := by
    decide
  have hback := keys_read_back hbuild hget hid hread (by decide)
    (fun i hi => BlockType.lamp_testBit (by decide) hi) hpairs "minecraft:" (by decide)
  rw [hkey] at hback
  exact ⟨reg, hbuild, hback.1, hback.2.1⟩

end PlotGrid
