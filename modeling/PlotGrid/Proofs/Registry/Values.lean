import PlotGrid.Proofs.Registry.Layout

/-!
# Values of a state

A state gives a value to each property of its type. Changing the value of one property is seen at
that property and nowhere else. Where the values of a property are different from each other, the
values tell the state, up to the bits outside of all fields.

- `BlockType.listed`: the values that a property can have.
- `BlockType.Decodes`: a state whose numbers all stand for values.
- `BlockType.value?_withValue`, `BlockType.testBit_withValue`: what a change of one value does.
- `BlockType.state_eq_of_value?`: a state is told by its values.
-/

namespace PlotGrid

namespace BlockType

variable {t : BlockType} {f : StateField} {s s' : UInt16} {prop prop' value : String} {i : Nat}

/-! ## Fields by name -/

theorem mem_of_field? (h : t.field? prop = some f) : f ∈ t.fields ∧ f.name = prop := by
  have hname := List.find?_some h
  exact ⟨List.mem_of_find?_eq_some h, beq_iff_eq.mp hname⟩

/-- A field is found by its name. -/
theorem field?_name (ht : Layout.Sound t.fields) (hf : f ∈ t.fields) :
    t.field? f.name = some f := by
  cases hfound : t.field? f.name with
  | none => exact absurd (beq_self_eq_true f.name) (List.find?_eq_none.mp hfound f hf)
  | some g =>
    obtain ⟨hg, hname⟩ := mem_of_field? hfound
    rw [ht.eq_of_name_eq hg hf hname]

/-- The values that a property can have. -/
def listed (t : BlockType) (prop : String) : List String :=
  ((t.field? prop).map StateField.values).getD []

theorem listed_of_field? (h : t.field? prop = some f) : t.listed prop = f.values := by
  rw [listed, h]
  rfl

theorem mem_listed_iff :
    value ∈ t.listed prop ↔ ∃ f, t.field? prop = some f ∧ value ∈ f.values := by
  cases h : t.field? prop with
  | none => simp [listed, h]
  | some f => simp [listed, h]

/-- What a state says is a listed value. -/
theorem listed_of_value? (h : t.value? s prop = some value) : value ∈ t.listed prop := by
  obtain ⟨f, hf, hvalue⟩ := Option.bind_eq_some_iff.mp h
  exact mem_listed_iff.mpr ⟨f, hf, List.mem_of_getElem? hvalue⟩

/-! ## Changing one value -/

/-- A value that is not listed changes nothing. -/
theorem withValue_of_not_listed (h : value ∉ t.listed prop) : t.withValue s prop value = s := by
  unfold withValue
  cases hf : t.field? prop with
  | none => rfl
  | some f =>
    rw [listed_of_field? hf] at h
    have hnone : f.number? value = none := List.idxOf?_eq_none_iff.mpr h
    simp only [hnone]

/-- A listed value is written as its number. -/
theorem withValue_of_listed (h : value ∈ t.listed prop) :
    ∃ f n, t.field? prop = some f ∧ f.values[n]? = some value ∧
      ∀ s, t.withValue s prop value = f.put s n := by
  obtain ⟨f, hf, hvalue⟩ := mem_listed_iff.mp h
  obtain ⟨n, hn⟩ : ∃ n, f.number? value = some n :=
    Option.ne_none_iff_exists'.mp fun hnone => List.idxOf?_eq_none_iff.mp hnone hvalue
  obtain ⟨hlt, heq, -⟩ := List.idxOf?_eq_some_iff.mp hn
  refine ⟨f, n, hf, List.getElem?_eq_some_iff.mpr ⟨hlt, heq⟩, fun s => ?_⟩
  simp only [withValue, hf, hn]

/-- **A change of one value is seen at its property and nowhere else.** -/
theorem value?_withValue (ht : Layout.Sound t.fields) :
    t.value? (t.withValue s prop value) prop' =
      if prop = prop' ∧ value ∈ t.listed prop then some value else t.value? s prop' := by
  by_cases hlisted : value ∈ t.listed prop
  · obtain ⟨f, n, hf, hvalue, hput⟩ := withValue_of_listed hlisted
    obtain ⟨hmem, hname⟩ := mem_of_field? hf
    obtain ⟨hlt, -⟩ := List.getElem?_eq_some_iff.mp hvalue
    have hn := (ht.field f hmem).lt_two_pow hlt
    rw [hput]
    by_cases hprop : prop = prop'
    · subst hprop
      rw [if_pos ⟨rfl, hlisted⟩, value?, hf, Option.bind_some, StateField.value?,
        StateField.code_put (ht.field f hmem).fits hn, hvalue]
    · rw [if_neg fun h => hprop h.1, value?, value?]
      cases hg : t.field? prop' with
      | none => rfl
      | some g =>
        -- the two fields differ, for their names do
        obtain ⟨hmem', hname'⟩ := mem_of_field? hg
        have hne : f ≠ g := by
          rintro rfl
          exact hprop (hname.symm.trans hname')
        rw [Option.bind_some, Option.bind_some, StateField.value?, StateField.value?,
          StateField.code_put_of_apart (ht.field f hmem).fits hn (ht.differs hmem hmem' hne).2]
  · rw [withValue_of_not_listed hlisted, if_neg fun h => hlisted h.2]

/-- A change of one value keeps the bits outside of the field of its property. -/
theorem testBit_withValue (ht : Layout.Sound t.fields)
    (hi : ∀ f, t.field? prop = some f → ¬ f.Holds i) :
    (t.withValue s prop value).toNat.testBit i = s.toNat.testBit i := by
  by_cases hlisted : value ∈ t.listed prop
  · obtain ⟨f, n, hf, hvalue, hput⟩ := withValue_of_listed hlisted
    obtain ⟨hmem, -⟩ := mem_of_field? hf
    obtain ⟨hlt, -⟩ := List.getElem?_eq_some_iff.mp hvalue
    rw [hput, StateField.testBit_put (ht.field f hmem).fits ((ht.field f hmem).lt_two_pow hlt),
      if_neg (hi f hf)]
  · rw [withValue_of_not_listed hlisted]

/-! ## States by their values -/

/-- The numbers of all fields that have values stand for one. -/
def Decodes (t : BlockType) (s : UInt16) : Prop :=
  ∀ f ∈ t.fields, f.values ≠ [] → f.code s < f.values.length

instance (t : BlockType) (s : UInt16) : Decidable (t.Decodes s) :=
  inferInstanceAs (Decidable (∀ f ∈ t.fields, _ → _))

/-- A state that decodes has a value for each property with values. -/
theorem decodes_iff (ht : Layout.Sound t.fields) :
    t.Decodes s ↔ ∀ prop, t.value? s prop = none → t.listed prop = [] := by
  constructor
  · intro h prop hnone
    cases hf : t.field? prop with
    | none => simp [listed, hf]
    | some f =>
      rw [value?, hf, Option.bind_some, StateField.value?, List.getElem?_eq_none_iff] at hnone
      rw [listed_of_field? hf]
      by_contra hne
      have := h f (mem_of_field? hf).1 hne
      omega
  · intro h f hf hne
    have hvalue : t.value? s f.name ≠ none := by
      intro hnone
      have hlisted := h f.name hnone
      rw [listed_of_field? (field?_name ht hf)] at hlisted
      exact hne hlisted
    rw [value?, field?_name ht hf, Option.bind_some, StateField.value?] at hvalue
    exact Nat.lt_of_not_le fun hle => hvalue (List.getElem?_eq_none_iff.mpr hle)

/-- **Values that are different from each other tell the state**, up to the bits outside of all
fields. -/
theorem state_eq_of_value? (ht : Layout.Sound t.fields)
    (hnodup : ∀ f ∈ t.fields, f.values.Nodup) (hs : t.Decodes s)
    (hvalue : ∀ prop, t.value? s prop = t.value? s' prop)
    (hrest : ∀ i, ¬ Layout.Holds t.fields i → s.toNat.testBit i = s'.toNat.testBit i) :
    s = s' := by
  refine Layout.state_ext ?_ hrest
  intro f hf
  by_cases hnil : f.values = []
  · rw [(ht.field f hf).code_of_nil hnil, (ht.field f hf).code_of_nil hnil]
  · have heq := hvalue f.name
    simp only [value?, field?_name ht hf, Option.bind_some, StateField.value?] at heq
    exact (List.getElem?_inj (hs f hf hnil) (hnodup f hf)).mp heq

end BlockType

end PlotGrid
