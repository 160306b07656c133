import PlotGrid.Proofs.Registry.Values

/-!
# Packing a choice of values

A state is packed by writing one number after the other, and each number is read back from it. So
a packed state shows the chosen values, with defaults in place of values that are not listed, and
packing what a packed state shows gives the same state again.

- `Layout.code_foldl_put`: numbers written to all fields are read back.
- `BlockType.code_pack`, `BlockType.value?_pack`: what a packed state shows.
- `BlockType.shown`, `BlockType.decoded`: the values that a state shows, as a list and as a choice.
- `BlockType.pack_eq_of_code`: a state is packed from the choice that gives its numbers.
- `states_code_choices`: states and choices of values code each other.
-/

namespace PlotGrid

/-! ## Writing all fields -/

namespace Layout

variable {fields : List StateField} {f : StateField} {n : StateField → Nat} {s : UInt16} {i : Nat}

theorem Sound.tail (hsound : Sound (f :: fields)) : Sound fields :=
  ⟨fun g hg => hsound.field g (List.mem_cons_of_mem f hg), (List.pairwise_cons.mp hsound.order).2⟩

/-- Writing other fields keeps the number of a field. -/
theorem code_foldl_put_of_apart (hfields : ∀ g ∈ fields, g.Sound)
    (hn : ∀ g ∈ fields, n g < 2 ^ g.bits) (hapart : ∀ g ∈ fields, g.Apart f) :
    f.code (fields.foldl (fun s g => g.put s (n g)) s) = f.code s := by
  induction fields generalizing s with
  | nil => rfl
  | cons g rest ih =>
    have hrest := ih (s := g.put s (n g)) (fun h hh => hfields h (List.mem_cons_of_mem g hh))
      (fun h hh => hn h (List.mem_cons_of_mem g hh))
      fun h hh => hapart h (List.mem_cons_of_mem g hh)
    rw [List.foldl_cons, hrest]
    exact StateField.code_put_of_apart (hfields g List.mem_cons_self).fits
      (hn g List.mem_cons_self) (hapart g List.mem_cons_self)

/-- **Numbers written to all fields are read back.** -/
theorem code_foldl_put (hsound : Sound fields) (hn : ∀ g ∈ fields, n g < 2 ^ g.bits)
    (hf : f ∈ fields) : f.code (fields.foldl (fun s g => g.put s (n g)) s) = n f := by
  induction fields generalizing s with
  | nil => exact absurd hf List.not_mem_nil
  | cons g rest ih =>
    have hrest : ∀ h ∈ rest, n h < 2 ^ h.bits := fun h hh => hn h (List.mem_cons_of_mem g hh)
    rw [List.foldl_cons]
    rcases List.mem_cons.mp hf with rfl | hf
    · -- the fields after this one stand above it
      have hafter := (List.pairwise_cons.mp hsound.order).1
      rw [code_foldl_put_of_apart hsound.tail.field hrest fun h hh => .inr (hafter h hh).2]
      exact StateField.code_put (hsound.field f List.mem_cons_self).fits
        (hn f List.mem_cons_self)
    · exact ih hsound.tail hrest hf

/-- Bits outside of all fields are not written. -/
theorem testBit_foldl_put (hfields : ∀ g ∈ fields, g.Sound) (hn : ∀ g ∈ fields, n g < 2 ^ g.bits)
    (hi : ¬ Holds fields i) :
    (fields.foldl (fun s g => g.put s (n g)) s).toNat.testBit i = s.toNat.testBit i := by
  induction fields generalizing s with
  | nil => rfl
  | cons g rest ih =>
    have hrest := ih (s := g.put s (n g)) (fun h hh => hfields h (List.mem_cons_of_mem g hh))
      (fun h hh => hn h (List.mem_cons_of_mem g hh))
      fun ⟨h, hh, hbit⟩ => hi ⟨h, List.mem_cons_of_mem g hh, hbit⟩
    rw [List.foldl_cons, hrest, StateField.testBit_put (hfields g List.mem_cons_self).fits
      (hn g List.mem_cons_self), if_neg fun hbit => hi ⟨g, List.mem_cons_self, hbit⟩]

/-- The bits of different fields are different. -/
theorem Sound.pairwise_holds (hsound : Sound fields) :
    fields.Pairwise fun f g => ∀ i, f.Holds i → ¬ g.Holds i := by
  refine hsound.order.imp ?_
  rintro f g ⟨-, hle⟩ i ⟨-, hlt⟩ ⟨hge, -⟩
  omega

end Layout

/-! ## Numbers of values -/

namespace StateField

variable {f : StateField} {value : String} {n : Nat}

theorem getElem?_of_number? (h : f.number? value = some n) : f.values[n]? = some value := by
  obtain ⟨hlt, heq, -⟩ := List.idxOf?_eq_some_iff.mp h
  exact List.getElem?_eq_some_iff.mpr ⟨hlt, heq⟩

theorem number?_eq_none_iff : f.number? value = none ↔ value ∉ f.values :=
  List.idxOf?_eq_none_iff

/-- The first value has the number zero. -/
theorem number?_of_head? (h : f.values.head? = some value) : f.number? value = some 0 := by
  rw [List.head?_eq_getElem?] at h
  obtain ⟨hlt, heq⟩ := List.getElem?_eq_some_iff.mp h
  exact List.idxOf?_eq_some_iff.mpr ⟨hlt, heq, fun j hj => absurd hj (Nat.not_lt_zero j)⟩

/-- Of different values each has its own number. -/
theorem number?_of_nodup (hnodup : f.values.Nodup) (h : f.values[n]? = some value) :
    f.number? value = some n := by
  obtain ⟨hlt, heq⟩ := List.getElem?_eq_some_iff.mp h
  refine List.idxOf?_eq_some_iff.mpr ⟨hlt, heq, ?_⟩
  intro j hj hsame
  have hother : f.values[j]? = some value := List.getElem?_eq_some_iff.mpr ⟨by omega, hsame⟩
  have hindex := (List.getElem?_inj hlt hnodup).mp (h.trans hother.symm)
  omega

end StateField

namespace BlockType

variable {t : BlockType} {f : StateField} {props : Properties} {s : UInt16} {prop value : String}
  {i : Nat}

/-! ## What a packed state shows -/

/-- The number of a choice is that of a listed value, or zero. -/
theorem choice_lt (hf : f.Sound) : choice props f < 2 ^ f.bits := by
  cases h : props[f.name]?.bind f.number? with
  | none =>
    rw [choice, h, Option.getD_none]
    exact Nat.two_pow_pos f.bits
  | some n =>
    obtain ⟨value, -, hn⟩ := Option.bind_eq_some_iff.mp h
    rw [choice, h, Option.getD_some]
    exact hf.lt_two_pow (List.getElem?_eq_some_iff.mp (StateField.getElem?_of_number? hn)).1

/-- A choice comes to the chosen value if that is listed, and to the first value otherwise. -/
theorem getElem?_choice (props : Properties) (f : StateField) :
    f.values[choice props f]? =
      (props[f.name]?.filter fun value => value ∈ f.values).or f.values.head? := by
  unfold choice
  cases props[f.name]? with
  | none => exact List.head?_eq_getElem?.symm
  | some value =>
    rw [Option.bind_some]
    cases hn : f.number? value with
    | none =>
      rw [Option.filter_some, if_neg (by simpa using StateField.number?_eq_none_iff.mp hn),
        Option.none_or, Option.getD_none, List.head?_eq_getElem?]
    | some n =>
      have hvalue := StateField.getElem?_of_number? hn
      rw [Option.filter_some, if_pos (by simpa using List.mem_of_getElem? hvalue),
        Option.some_or, Option.getD_some, hvalue]

/-- The number of what a choice comes to is the number of the choice. -/
theorem number_choice (props : Properties) (f : StateField) :
    (f.values[choice props f]?.bind f.number?).getD 0 = choice props f := by
  unfold choice
  cases h : props[f.name]?.bind f.number? with
  | some n =>
    obtain ⟨value, -, hn⟩ := Option.bind_eq_some_iff.mp h
    rw [Option.getD_some, StateField.getElem?_of_number? hn, Option.bind_some, hn,
      Option.getD_some]
  | none =>
    rw [Option.getD_none]
    cases hhead : f.values.head? with
    | none =>
      rw [List.head?_eq_getElem?] at hhead
      rw [hhead]
      rfl
    | some value =>
      have hzero := StateField.number?_of_head? hhead
      rw [List.head?_eq_getElem?] at hhead
      rw [hhead, Option.bind_some, hzero, Option.getD_some]

/-- **Each field of a packed state has the number of its choice.** -/
theorem code_pack (ht : Layout.Sound t.fields) (hf : f ∈ t.fields) :
    f.code (t.pack props) = choice props f :=
  Layout.code_foldl_put ht (fun g hg => choice_lt (ht.field g hg)) hf

/-- A packed state has no other bits. -/
theorem testBit_pack (ht : Layout.Sound t.fields) (hi : ¬ Layout.Holds t.fields i) :
    (t.pack props).toNat.testBit i = false := by
  rw [pack, Layout.testBit_foldl_put ht.field (fun g hg => choice_lt (ht.field g hg)) hi]
  exact Nat.zero_testBit i

/-- **A packed state shows the chosen values**, with the first one in place of a value that is not
listed or not chosen. -/
theorem value?_pack (ht : Layout.Sound t.fields) (hf : f ∈ t.fields) :
    t.value? (t.pack props) f.name =
      (props[f.name]?.filter fun value => value ∈ f.values).or f.values.head? := by
  rw [value?, field?_name ht hf, Option.bind_some, StateField.value?, code_pack ht hf,
    getElem?_choice]

/-- A state is packed from the choice that gives its numbers. -/
theorem pack_eq_of_code (ht : Layout.Sound t.fields)
    (hcode : ∀ f ∈ t.fields, choice props f = f.code s)
    (hrest : ∀ i, ¬ Layout.Holds t.fields i → s.toNat.testBit i = false) : t.pack props = s := by
  have hcodes : ∀ f ∈ t.fields, f.code (t.pack props) = f.code s := fun f hf =>
    (code_pack ht hf).trans (hcode f hf)
  refine Layout.state_ext hcodes ?_
  intro i hi
  rw [testBit_pack ht hi, hrest i hi]

/-! ## The values that a state shows -/

/-- The properties that have a value in a state, with their values. -/
def shown (t : BlockType) (s : UInt16) : List (String × String) :=
  (t.values s).filterMap fun p => p.2.map fun value => (p.1, value)

/-- The choice of the values that a state shows. -/
def decoded (t : BlockType) (s : UInt16) : Properties :=
  .ofList (t.shown s)

theorem mem_shown_iff (ht : Layout.Sound t.fields) :
    (prop, value) ∈ t.shown s ↔ t.value? s prop = some value := by
  simp only [shown, values, List.mem_filterMap, List.mem_map, Option.map_eq_some_iff]
  constructor
  · rintro ⟨-, ⟨f, hf, rfl⟩, _, hvalue, heq⟩
    obtain ⟨rfl, rfl⟩ := Prod.mk.inj heq
    rw [value?, field?_name ht hf, Option.bind_some]
    exact hvalue
  · intro h
    obtain ⟨f, hf, hvalue⟩ := Option.bind_eq_some_iff.mp h
    obtain ⟨hmem, rfl⟩ := mem_of_field? hf
    exact ⟨_, ⟨f, hmem, rfl⟩, value, hvalue, rfl⟩

/-- No property is shown twice. -/
theorem pairwise_shown (ht : Layout.Sound t.fields) :
    (t.shown s).Pairwise fun p q => p.1 ≠ q.1 := by
  have hfields : t.fields.Pairwise fun f g => f.name ≠ g.name := ht.order.imp fun h => h.1
  have hvalues : (t.values s).Pairwise fun p q => p.1 ≠ q.1 := List.pairwise_map.mpr hfields
  refine List.Pairwise.filterMap _ ?_ hvalues
  rintro ⟨name, value?⟩ ⟨name', value?'⟩ hne p hp q hq
  obtain ⟨value, -, rfl⟩ := Option.map_eq_some_iff.mp hp
  obtain ⟨value', -, rfl⟩ := Option.map_eq_some_iff.mp hq
  exact hne

/-- **A choice of the values that a state shows, in any order,** has exactly these values. -/
theorem getElem?_ofList_of_perm (ht : Layout.Sound t.fields) {pairs : List (String × String)}
    (hpairs : pairs.Perm (t.shown s)) (prop : String) :
    (Std.TreeMap.ofList pairs : Properties)[prop]? = t.value? s prop := by
  have hsymm {p q : String × String} (h : p.1 ≠ q.1) : q.1 ≠ p.1 := h.symm
  have hdistinct : pairs.Pairwise fun p q => ¬ compare p.1 q.1 = .eq :=
    ((hpairs.pairwise_iff hsymm).mpr (pairwise_shown ht)).imp fun h heq =>
      h (Std.compare_eq_iff_eq.mp heq)
  cases hvalue : t.value? s prop with
  | some value =>
    exact Std.TreeMap.getElem?_ofList_of_mem Std.compare_self hdistinct
      (hpairs.mem_iff.mpr ((mem_shown_iff ht).mpr hvalue))
  | none =>
    refine Std.TreeMap.getElem?_ofList_of_contains_eq_false ?_
    rw [Bool.eq_false_iff, Ne, List.contains_iff_mem, List.mem_map]
    rintro ⟨⟨name, value⟩, hmem, rfl⟩
    rw [(mem_shown_iff ht).mp (hpairs.mem_iff.mp hmem)] at hvalue
    cases hvalue

theorem getElem?_decoded (ht : Layout.Sound t.fields) (prop : String) :
    (t.decoded s)[prop]? = t.value? s prop :=
  getElem?_ofList_of_perm ht (.refl _) prop

/-- What a state shows comes to the number of the value, if that is the first of its kind. -/
theorem choice_of_value? (ht : Layout.Sound t.fields) (hf : f ∈ t.fields)
    (hprops : ∀ prop, props[prop]? = t.value? s prop) :
    choice props f = ((f.value? s).bind f.number?).getD 0 := by
  rw [choice, hprops, value?, field?_name ht hf, Option.bind_some]

/-- **Of different values the ones that a state shows tell its numbers.** -/
theorem pack_of_value? (ht : Layout.Sound t.fields) (hnodup : ∀ f ∈ t.fields, f.values.Nodup)
    (hs : t.Decodes s) (hrest : ∀ i, ¬ Layout.Holds t.fields i → s.toNat.testBit i = false)
    (hprops : ∀ prop, props[prop]? = t.value? s prop) : t.pack props = s := by
  refine pack_eq_of_code ht ?_ hrest
  intro f hf
  rw [choice_of_value? ht hf hprops]
  by_cases hnil : f.values = []
  · rw [StateField.value?, hnil, (ht.field f hf).code_of_nil hnil]
    rfl
  · have hvalue := List.getElem?_eq_getElem (hs f hf hnil)
    rw [StateField.value?, hvalue, Option.bind_some,
      StateField.number?_of_nodup (hnodup f hf) hvalue, Option.getD_some]

/-- **What a packed state shows packs to it again**, whatever was chosen. -/
theorem pack_decoded_pack (ht : Layout.Sound t.fields) (props : Properties) :
    t.pack (t.decoded (t.pack props)) = t.pack props := by
  refine pack_eq_of_code ht ?_ fun i hi => testBit_pack ht hi
  intro f hf
  rw [choice_of_value? ht hf (getElem?_decoded ht), StateField.value?, code_pack ht hf,
    number_choice]

end BlockType

/-! ## The codec -/

/-- **States and choices of values code each other.** In a registry the fields of each type have
different bits within a state. For every choice of values, whether it leaves properties out, has
others, or has values that are not listed, the packed state shows at each field the chosen value
if it is listed, else the first value, and none if there is no value; and packing what it shows
gives the same state. Conversely, if the values of each property are different, every state whose
numbers stand for values and that has no other bits is packed from what it shows. -/
theorem states_code_choices {cfg : RegistryConfig} {reg : Registry}
    (hbuild : Registry.build cfg = .ok reg) {t : BlockType} (ht : t ∈ reg.types) :
    (∀ f ∈ t.fields, f.offset + f.bits ≤ Registry.stateBits) ∧
    (t.fields.Pairwise fun f g => ∀ i, f.Holds i → ¬ g.Holds i) ∧
    (∀ props : Properties,
      (∀ f ∈ t.fields, t.value? (t.pack props) f.name =
        (props[f.name]?.filter fun value => value ∈ f.values).or f.values.head?) ∧
      t.pack (t.decoded (t.pack props)) = t.pack props) ∧
    ((∀ f ∈ t.fields, f.values.Nodup) → ∀ s, t.Decodes s →
      (∀ i, ¬ Layout.Holds t.fields i → s.toNat.testBit i = false) →
      t.pack (t.decoded s) = s) := by
  have ht := Registry.sound_of_mem hbuild ht
  refine ⟨fun f hf => (ht.field f hf).fits, ht.pairwise_holds, fun props => ⟨?_, ?_⟩, ?_⟩
  · exact fun f hf => BlockType.value?_pack ht hf
  · exact BlockType.pack_decoded_pack ht props
  · exact fun hnodup s hs hrest =>
      BlockType.pack_of_value? ht hnodup hs hrest (BlockType.getElem?_decoded ht)

/-- The properties of a lamp: three values, a single one, and none at all. -/
def Schema.lamp : Schema :=
  .ofList [("charge", ["none", "low", "full"]), ("lit", ["false"]), ("tint", [])]

/-- A registry of one lamp, behind a gap. -/
def RegistryConfig.lamp : RegistryConfig :=
  ⟨[⟨"lamp", some 2, .lamp⟩], [], none⟩

/-- The type of the lamp. -/
def BlockType.lamp : BlockType :=
  ⟨2, "lamp", Layout.ofSchema .lamp⟩

theorem RegistryConfig.lamp_build : ∃ reg, Registry.build .lamp = .ok reg ∧
    reg.get? 2 = some .lamp ∧ reg.idOf? "lamp" = some 2 :=
  ⟨_, rfl, rfl, Std.HashMap.getElem?_insert_self⟩

/-- The state of a lamp is in its two lowest bits. -/
theorem BlockType.lamp_testBit {s : UInt16} {i : Nat} (hs : s.toNat < 2 ^ 2)
    (hi : ¬ Layout.Holds BlockType.lamp.fields i) : s.toNat.testBit i = false := by
  refine StateField.testBit_of_lt_of_le hs (Nat.not_lt.mp fun hlt => ?_)
  exact hi ⟨⟨"charge", ["none", "low", "full"], 2, 0⟩, by decide, Nat.zero_le i, hlt⟩

/-- A lamp that is chosen to be full, with a value that is not listed, one for a property without
values and one for a property that it does not have. -/
theorem states_code_choices_of_lamp : ∃ reg, Registry.build .lamp = .ok reg ∧
    BlockType.lamp ∈ reg.types ∧
    (let full := BlockType.lamp.pack
      (.ofList [("charge", "full"), ("lit", "maybe"), ("tint", "red"), ("age", "3")])
    BlockType.lamp.value? full "charge" = some "full" ∧
      BlockType.lamp.value? full "lit" = some "false" ∧
      BlockType.lamp.value? full "tint" = none ∧
      BlockType.lamp.pack (BlockType.lamp.decoded full) = full) ∧
    BlockType.lamp.pack (BlockType.lamp.decoded 1) = 1 := by
  obtain ⟨reg, hbuild, hget, -⟩ := RegistryConfig.lamp_build
  have hmem := Array.mem_of_getElem? hget
  obtain ⟨-, -, hpack, hdecoded⟩ := states_code_choices hbuild hmem
  obtain ⟨hvalues, hagain⟩ := hpack (.ofList
    [("charge", "full"), ("lit", "maybe"), ("tint", "red"), ("age", "3")])
  have hfield (f : StateField) (hf : f ∈ BlockType.lamp.fields) := hvalues f hf
  refine ⟨reg, hbuild, hmem, ⟨?_, ?_, ?_, hagain⟩, ?_⟩
  · exact (hfield ⟨"charge", ["none", "low", "full"], 2, 0⟩ (by decide)).trans (by decide)
  · exact (hfield ⟨"lit", ["false"], 0, 2⟩ (by decide)).trans (by decide)
  · exact (hfield ⟨"tint", [], 0, 2⟩ (by decide)).trans (by decide)
  · exact hdecoded (by decide) 1 (by decide) fun i hi => BlockType.lamp_testBit (by decide) hi

end PlotGrid
