import PlotGrid.Proofs.Registry.Values
import PlotGrid.Registry.Turn

/-!
# Quarter turns

A turn rewrites properties of a state at the same time: every value is read from the state as it
was, and no two of them are written to the same property. So each value after a turn is told by one
value before it, and four turns lead back to the state as it was, bit by bit.

- `Rewrite`, `BlockType.rewrites`: one property rewritten, and all that a turn rewrites.
- `BlockType.value?_turn_of_mem`, `BlockType.value?_turn_of_not_mem`: values after a turn.
- `BlockType.Connected`, `BlockType.LooksTurned`: a type with links to all sides, and what a turn
  does to the links and to the direction it faces.
- `BlockType.Closed`: a type whose values stay listed under turns.
- `BlockType.Closed.turn_four_times`: four turns of a state.
- `quarter_turns_come_round`: four turns of a voxel, and what a single one keeps.
-/

namespace PlotGrid

/-- One property rewritten: the value of `source` is turned and written to `target`. -/
structure Rewrite where
  source : String
  target : String
  turned : String → Option String

namespace Rewrite

/-- The value that takes the place of another; what is not turned stays. -/
def shift (w : Rewrite) (value : String) : String :=
  (w.turned value).getD value

/-- A value that is led back to after four times. -/
def Cyclic (w : Rewrite) (value : String) : Prop :=
  w.shift (w.shift (w.shift (w.shift value))) = value

/-- A value that is not turned stays. -/
theorem cyclic_of_none {w : Rewrite} {value : String} (h : w.turned value = none) :
    w.Cyclic value := by
  have hshift : w.shift value = value := by
    rw [shift, h, Option.getD_none]
  rw [Cyclic, hshift, hshift, hshift, hshift]

/-- The state after a rewriting that reads from `src`. -/
def apply (t : BlockType) (src state : UInt16) (w : Rewrite) : UInt16 :=
  match (t.value? src w.source).bind w.turned with
  | some value => t.withValue state w.target value
  | none => state

/-- A rewriting that writes only listed values, as far as `src` goes. -/
def StaysListed (t : BlockType) (src : UInt16) (w : Rewrite) : Prop :=
  ∀ value turned, t.value? src w.source = some value → w.turned value = some turned →
    turned ∈ t.listed w.target

variable {t : BlockType} {src s : UInt16} {w : Rewrite} {ws : List Rewrite} {prop : String}
  {i : Nat}

theorem value?_apply_of_ne (ht : Layout.Sound t.fields) (h : w.target ≠ prop) :
    t.value? (w.apply t src s) prop = t.value? s prop := by
  unfold apply
  split
  · rw [BlockType.value?_withValue ht, if_neg fun hw => h hw.1]
  · rfl

theorem value?_apply (ht : Layout.Sound t.fields) (hlisted : w.StaysListed t src) :
    t.value? (w.apply t src s) w.target =
      ((t.value? src w.source).bind w.turned).or (t.value? s w.target) := by
  unfold apply
  split
  · rename_i turned hturned
    obtain ⟨value, hvalue, hw⟩ := Option.bind_eq_some_iff.mp hturned
    rw [BlockType.value?_withValue ht, if_pos ⟨rfl, hlisted value turned hvalue hw⟩, hturned,
      Option.some_or]
  · rename_i hnone
    rw [hnone, Option.none_or]

theorem testBit_apply (ht : Layout.Sound t.fields) (hi : ¬ Layout.Holds t.fields i) :
    (w.apply t src s).toNat.testBit i = s.toNat.testBit i := by
  unfold apply
  split
  · exact BlockType.testBit_withValue ht fun f hf hbit =>
      hi ⟨f, (BlockType.mem_of_field? hf).1, hbit⟩
  · rfl

/-- Properties that are no target keep their values. -/
theorem value?_foldl_of_not_mem (ht : Layout.Sound t.fields)
    (h : prop ∉ ws.map Rewrite.target) :
    t.value? (ws.foldl (fun s w => w.apply t src s) s) prop = t.value? s prop := by
  induction ws generalizing s with
  | nil => rfl
  | cons w rest ih =>
    obtain ⟨hne, hrest⟩ := not_or.mp fun hor => h (List.mem_cons.mpr hor)
    rw [List.foldl_cons, ih hrest, value?_apply_of_ne ht fun heq => hne heq.symm]

/-- **Each target is written once**, with the value read from the state as it was. -/
theorem value?_foldl_of_mem (ht : Layout.Sound t.fields) (hnodup : (ws.map Rewrite.target).Nodup)
    (hw : w ∈ ws) (hlisted : w.StaysListed t src) :
    t.value? (ws.foldl (fun s w => w.apply t src s) s) w.target =
      ((t.value? src w.source).bind w.turned).or (t.value? s w.target) := by
  induction ws generalizing s with
  | nil => exact absurd hw List.not_mem_nil
  | cons first rest ih =>
    obtain ⟨hfirst, hrest⟩ := List.nodup_cons.mp hnodup
    rw [List.foldl_cons]
    rcases List.mem_cons.mp hw with rfl | hw
    · rw [value?_foldl_of_not_mem ht hfirst, value?_apply ht hlisted]
    · have hne : first.target ≠ w.target := fun heq =>
        hfirst (heq ▸ List.mem_map_of_mem hw)
      rw [ih hrest hw, value?_apply_of_ne ht hne]

theorem testBit_foldl (ht : Layout.Sound t.fields) (hi : ¬ Layout.Holds t.fields i) :
    (ws.foldl (fun s w => w.apply t src s) s).toNat.testBit i = s.toNat.testBit i := by
  induction ws generalizing s with
  | nil => rfl
  | cons w rest ih => rw [List.foldl_cons, ih, testBit_apply ht hi]

end Rewrite

namespace BlockType

/-! ## What a turn rewrites -/

/-- The direction that a block faces. -/
def facingRewrite : Rewrite :=
  ⟨"facing", "facing", turnedFacing⟩

/-- The axis that a block lies along. -/
def axisRewrite : Rewrite :=
  ⟨"axis", "axis", turnedAxis⟩

/-- The rotation index of a block. -/
def rotationRewrite : Rewrite :=
  ⟨"rotation", "rotation", turnedRotation⟩

/-- The properties that are rewritten to themselves. -/
def ownRewrites : List Rewrite :=
  [facingRewrite, axisRewrite, rotationRewrite]

/-- The link of a direction goes to the turned direction. -/
def linkRewrite (d : Direction) : Rewrite :=
  ⟨d.name, d.quarterTurn.name, some⟩

/-- All that a turn rewrites. -/
def rewrites (t : BlockType) : List Rewrite :=
  ownRewrites ++ if t.isLinked then links.map linkRewrite else []

/-- The properties that say something about orientation. -/
def oriented : List String :=
  ["facing", "axis", "rotation", "north", "east", "south", "west"]

theorem turn_eq_foldl (t : BlockType) (s : UInt16) :
    t.turn s = t.rewrites.foldl (fun state w => w.apply t s state) s := by
  have hlink (state : UInt16) (d : Direction) :
      t.turnLink s state d = (linkRewrite d).apply t s state := by
    cases h : t.value? s d.name with
    | none => simp only [turnLink, Rewrite.apply, linkRewrite, h, Option.bind_none]
    | some value => simp only [turnLink, Rewrite.apply, linkRewrite, h, Option.bind_some]
  rw [rewrites, List.foldl_append]
  unfold turn
  split
  · rw [List.foldl_map]
    simp only [← hlink]
    rfl
  · rfl

theorem nodup_targets (t : BlockType) : (t.rewrites.map Rewrite.target).Nodup := by
  unfold rewrites
  split
  · decide
  · decide

theorem targets_subset (t : BlockType) : t.rewrites.map Rewrite.target ⊆ oriented := by
  unfold rewrites
  split
  · decide
  · decide

variable {t : BlockType} {s : UInt16} {w : Rewrite} {prop : String} {d d' : Direction} {i : Nat}

/-- **A value after a turn is told by one value before it.** -/
theorem value?_turn_of_mem (ht : Layout.Sound t.fields) (hw : w ∈ t.rewrites)
    (hlisted : w.StaysListed t s) : t.value? (t.turn s) w.target =
      ((t.value? s w.source).bind w.turned).or (t.value? s w.target) := by
  rw [turn_eq_foldl, Rewrite.value?_foldl_of_mem ht t.nodup_targets hw hlisted]

/-- Properties that are not rewritten keep their values. -/
theorem value?_turn_of_not_mem (ht : Layout.Sound t.fields)
    (h : prop ∉ t.rewrites.map Rewrite.target) : t.value? (t.turn s) prop = t.value? s prop := by
  rw [turn_eq_foldl, Rewrite.value?_foldl_of_not_mem ht h]

/-- **A turn keeps the bits outside of all fields.** -/
theorem testBit_turn (ht : Layout.Sound t.fields) (hi : ¬ Layout.Holds t.fields i) :
    (t.turn s).toNat.testBit i = s.toNat.testBit i := by
  rw [turn_eq_foldl, Rewrite.testBit_foldl ht hi]

/-! ## Values of the rewritten properties -/

theorem mem_ownRewrites_iff :
    w ∈ ownRewrites ↔ w = facingRewrite ∨ w = axisRewrite ∨ w = rotationRewrite := by
  simp only [ownRewrites, List.mem_cons, List.not_mem_nil, or_false]

/-- A turn rewrites three properties to themselves, and the links if there are all four. -/
theorem mem_rewrites_iff : w ∈ t.rewrites ↔
    w ∈ ownRewrites ∨ t.isLinked = true ∧ ∃ d ∈ links, linkRewrite d = w := by
  rw [rewrites, List.mem_append]
  by_cases hlinked : t.isLinked = true
  · rw [if_pos hlinked, List.mem_map, and_iff_right hlinked]
  · rw [if_neg hlinked, or_iff_left List.not_mem_nil, or_iff_left fun h => hlinked h.1]

theorem quarterTurn_mem_links (hd : d ∈ links) : d.quarterTurn ∈ links := by
  revert hd
  obtain ⟨i⟩ := d
  revert i
  decide

/-- A property that is rewritten to itself keeps a value that is not turned. -/
theorem value?_turn_own (ht : Layout.Sound t.fields) (hw : w ∈ ownRewrites)
    (hlisted : w.StaysListed t s) :
    t.value? (t.turn s) w.target = (t.value? s w.target).map w.shift := by
  have hsource : w.source = w.target := by
    rcases mem_ownRewrites_iff.mp hw with rfl | rfl | rfl <;> rfl
  rw [value?_turn_of_mem ht (mem_rewrites_iff.mpr (.inl hw)) hlisted, hsource]
  cases t.value? s w.target with
  | none => rfl
  | some value =>
    show (w.turned value).or (some value) = some ((w.turned value).getD value)
    cases w.turned value <;> rfl

/-- The four links have the same values. -/
def LinksAgree (t : BlockType) : Prop :=
  ∀ d ∈ links, ∀ d' ∈ links, t.listed d.name ⊆ t.listed d'.name

instance (t : BlockType) : Decidable t.LinksAgree :=
  inferInstanceAs (Decidable (∀ d ∈ links, ∀ d' ∈ links, t.listed d.name ⊆ t.listed d'.name))

theorem LinksAgree.staysListed (hsame : t.LinksAgree) (hd : d ∈ links) :
    (linkRewrite d).StaysListed t s := by
  rintro value _ hvalue ⟨⟩
  exact hsame d hd _ (quarterTurn_mem_links hd) (listed_of_value? hvalue)

/-- **The link of the turned direction gets the value of the link.** -/
theorem value?_turn_link (ht : Layout.Sound t.fields) (hlinked : t.isLinked = true)
    (hsame : t.LinksAgree) (hs : t.Decodes s) (hd : d ∈ links) :
    t.value? (t.turn s) d.quarterTurn.name = t.value? s d.name := by
  have hw : linkRewrite d ∈ t.rewrites := mem_rewrites_iff.mpr (.inr ⟨hlinked, d, hd, rfl⟩)
  have hturn := value?_turn_of_mem ht hw (hsame.staysListed (s := s) hd)
  rw [linkRewrite, Option.bind_fun_some] at hturn
  rw [hturn]
  cases hvalue : t.value? s d.name with
  | some value => rfl
  | none =>
    -- a link without a value has no values at all, and neither has the other one
    rw [Option.none_or]
    have hnil := (decodes_iff ht).mp hs d.name hvalue
    refine Option.eq_none_iff_forall_ne_some.mpr fun value h => ?_
    have hmem := hsame _ (quarterTurn_mem_links hd) d hd (listed_of_value? h)
    rw [hnil] at hmem
    exact List.not_mem_nil hmem

end BlockType

/-! ## Turned values -/

theorem Direction.quarterTurn_four_times (d : Direction) :
    d.quarterTurn.quarterTurn.quarterTurn.quarterTurn = d := by
  obtain ⟨i⟩ := d
  revert i
  decide

theorem Direction.name_of_ofName? {value : String} {d : Direction}
    (h : Direction.ofName? value = some d) : d.name = value := by
  have hname := List.find?_some h
  exact beq_iff_eq.mp hname

/-- A rotation index below sixteen is turned by three quarters of the rose. -/
theorem turnIndex?_of_lt {r : Nat} (h : r < 16) : turnIndex? r = some ((r + 12) % 16) := by
  rw [turnIndex?, Direction.ofIndex?, dif_pos h]
  rfl

theorem turnIndex?_of_le {r : Nat} (h : 16 ≤ r) : turnIndex? r = none := by
  rw [turnIndex?, Direction.ofIndex?, dif_neg (by omega)]
  rfl

namespace BlockType

/-- The numeral of a rotation index is read as that index. -/
theorem rotation?_toString {r : Nat} (h : r < 16) :
    Text.rotation? (toString r).toList = some r := by
  have hall : ∀ i : Fin 16, Text.rotation? (toString i.val).toList = some i.val := by decide
  exact hall ⟨r, h⟩

theorem lt_of_rotation? {text : List Char} {r : Nat} (h : Text.rotation? text = some r) :
    r < 16 := by
  rw [Text.rotation?, Option.filter_eq_some_iff] at h
  exact of_decide_eq_true h.2

theorem turnedFacing_name (d : Direction) : turnedFacing d.name = some d.quarterTurn.name := by
  rw [turnedFacing, Direction.ofName?_name, Option.map_some]

theorem shift_facing (d : Direction) : facingRewrite.shift d.name = d.quarterTurn.name := by
  show (turnedFacing d.name).getD d.name = _
  rw [turnedFacing_name, Option.getD_some]

theorem turnedRotation_toString {r : Nat} (h : r < 16) :
    turnedRotation (toString r) = some (toString ((r + 12) % 16)) := by
  rw [turnedRotation, rotation?_toString h, Option.bind_some, turnIndex?_of_lt h, Option.map_some]

theorem shift_rotation {r : Nat} (h : r < 16) :
    rotationRewrite.shift (toString r) = toString ((r + 12) % 16) := by
  show (turnedRotation (toString r)).getD (toString r) = _
  rw [turnedRotation_toString h, Option.getD_some]

theorem lt_of_turnedRotation {value turned : String} (h : turnedRotation value = some turned) :
    ∃ r < 16, Text.rotation? value.toList = some r ∧ turned = toString ((r + 12) % 16) := by
  obtain ⟨index, hindex, rfl⟩ := Option.map_eq_some_iff.mp h
  obtain ⟨r, hr, hturn⟩ := Option.bind_eq_some_iff.mp hindex
  have hlt := lt_of_rotation? hr
  rw [turnIndex?_of_lt hlt] at hturn
  exact ⟨r, hlt, hr, by rw [Option.some.inj hturn]⟩

theorem cyclic_facing (value : String) : facingRewrite.Cyclic value := by
  cases hd : Direction.ofName? value with
  | none =>
    refine Rewrite.cyclic_of_none ?_
    show (Direction.ofName? value).map _ = none
    rw [hd, Option.map_none]
  | some d =>
    rw [← Direction.name_of_ofName? hd]
    simp only [Rewrite.Cyclic, shift_facing, Direction.quarterTurn_four_times]

theorem cyclic_axis (value : String) : axisRewrite.Cyclic value := by
  by_cases hx : value = "x"
  · subst hx
    rfl
  · by_cases hz : value = "z"
    · subst hz
      rfl
    · simp [Rewrite.Cyclic, Rewrite.shift, axisRewrite, turnedAxis, hx, hz]

/-- Numerals in canonical form are led back to. -/
theorem cyclic_rotation {value : String}
    (h : ∀ r, Text.rotation? value.toList = some r → value = toString r) :
    rotationRewrite.Cyclic value := by
  cases hr : Text.rotation? value.toList with
  | none =>
    refine Rewrite.cyclic_of_none ?_
    show ((Text.rotation? value.toList).bind turnIndex?).map toString = none
    rw [hr, Option.bind_none, Option.map_none]
  | some r =>
    have hlt := lt_of_rotation? hr
    have hnext (n : Nat) : (n + 12) % 16 < 16 := Nat.mod_lt _ (by decide)
    have hround : ((((r + 12) % 16 + 12) % 16 + 12) % 16 + 12) % 16 = r := by omega
    rw [h r hr]
    simp only [Rewrite.Cyclic, shift_rotation, hlt, hnext, hround]

/-! ## Connected types -/

/-- A type with links to all four sides that have the same values; if it faces a side, it can face
the turned side. -/
structure Connected (t : BlockType) : Prop where
  linked : t.isLinked = true
  same : t.LinksAgree
  facing : ∀ d ∈ links, d.name ∈ t.listed "facing" → d.quarterTurn.name ∈ t.listed "facing"

/-- A state looks to each turned side as another one looks to the side. -/
structure LooksTurned (t : BlockType) (s s' : UInt16) : Prop where
  link : ∀ d ∈ links, t.value? s' d.quarterTurn.name = t.value? s d.name
  facing : ∀ d ∈ links, t.value? s "facing" = some d.name →
    t.value? s' "facing" = some d.quarterTurn.name

/-- **A turn takes what is on one side to the turned side.** -/
theorem Connected.looksTurned {t : BlockType} {s : UInt16} (hconn : t.Connected)
    (ht : Layout.Sound t.fields) (hs : t.Decodes s) : t.LooksTurned s (t.turn s) where
  link d hd := value?_turn_link ht hconn.linked hconn.same hs hd
  facing d hd hfacing := by
    have hlisted : facingRewrite.StaysListed t s := by
      intro value turned hvalue hturned
      obtain rfl := Option.some.inj (hfacing.symm.trans hvalue)
      rw [← Option.some.inj ((turnedFacing_name d).symm.trans hturned)]
      exact hconn.facing d hd (listed_of_value? hfacing)
    have hturn := value?_turn_own ht List.mem_cons_self hlisted
    have hbefore : t.value? s facingRewrite.target = some d.name := hfacing
    rw [hbefore, Option.map_some, shift_facing] at hturn
    exact hturn

/-! ## Closed types -/

/-- **A type that is closed under turns.** Values of a property are different from each other;
turned directions, axes and rotation indices are listed too, with the indices as plain numerals;
and the four links have the same values. -/
structure Closed (t : BlockType) : Prop where
  distinct : ∀ f ∈ t.fields, f.values.Nodup
  facing : ∀ d : Direction, d.name ∈ t.listed "facing" → d.quarterTurn.name ∈ t.listed "facing"
  axis : "x" ∈ t.listed "axis" ↔ "z" ∈ t.listed "axis"
  rotation : ∀ value ∈ t.listed "rotation", ∀ r, Text.rotation? value.toList = some r →
    value = toString r ∧ toString ((r + 12) % 16) ∈ t.listed "rotation"
  links : t.isLinked = true → t.LinksAgree

namespace Closed

variable {t : BlockType} {s : UInt16} {w : Rewrite} {prop : String} {d : Direction}

theorem staysListed_own (hclosed : t.Closed) (hw : w ∈ ownRewrites) : w.StaysListed t s := by
  rcases mem_ownRewrites_iff.mp hw with rfl | rfl | rfl
  · intro value turned hvalue hturned
    obtain ⟨d, hd, rfl⟩ := Option.map_eq_some_iff.mp hturned
    refine hclosed.facing d ?_
    rw [Direction.name_of_ofName? hd]
    exact listed_of_value? hvalue
  · rintro value _ hvalue ⟨⟩
    have hmem := listed_of_value? hvalue
    show (if value = "x" then "z" else if value = "z" then "x" else value) ∈ t.listed "axis"
    split
    · rename_i hx
      exact hclosed.axis.mp (hx ▸ hmem)
    · split
      · rename_i hz
        exact hclosed.axis.mpr (hz ▸ hmem)
      · exact hmem
  · intro value turned hvalue hturned
    obtain ⟨r, -, hr, rfl⟩ := lt_of_turnedRotation hturned
    exact (hclosed.rotation value (listed_of_value? hvalue) r hr).2

theorem cyclic (hclosed : t.Closed) (hw : w ∈ ownRewrites) {value : String}
    (hvalue : value ∈ t.listed w.target) : w.Cyclic value := by
  rcases mem_ownRewrites_iff.mp hw with rfl | rfl | rfl
  · exact cyclic_facing value
  · exact cyclic_axis value
  · exact cyclic_rotation fun r hr => (hclosed.rotation value hvalue r hr).1

theorem staysListed (hclosed : t.Closed) (hw : w ∈ t.rewrites) : w.StaysListed t s := by
  rcases mem_rewrites_iff.mp hw with hown | ⟨hlinked, d, hd, rfl⟩
  · exact hclosed.staysListed_own hown
  · exact (hclosed.links hlinked).staysListed hd

/-- **Turned states decode.** -/
theorem decodes_turn (hclosed : t.Closed) (ht : Layout.Sound t.fields) (hs : t.Decodes s) :
    t.Decodes (t.turn s) := by
  refine (decodes_iff ht).mpr fun prop hnone => ?_
  refine (decodes_iff ht).mp hs prop ?_
  by_cases hprop : prop ∈ t.rewrites.map Rewrite.target
  · obtain ⟨w, hw, rfl⟩ := List.mem_map.mp hprop
    rw [value?_turn_of_mem ht hw (hclosed.staysListed hw), Option.or_eq_none_iff] at hnone
    exact hnone.2
  · rw [value?_turn_of_not_mem ht hprop] at hnone
    exact hnone

/-- Four turns give each property its value back. -/
theorem value?_turn_four_times (hclosed : t.Closed) (ht : Layout.Sound t.fields)
    (hs : t.Decodes s) (prop : String) :
    t.value? (t.turn (t.turn (t.turn (t.turn s)))) prop = t.value? s prop := by
  by_cases hprop : prop ∈ t.rewrites.map Rewrite.target
  · obtain ⟨w, hw, rfl⟩ := List.mem_map.mp hprop
    rcases mem_rewrites_iff.mp hw with hown | ⟨hlinked, d, hd, rfl⟩
    · simp only [value?_turn_own ht hown (hclosed.staysListed_own hown), Option.map_map]
      cases hvalue : t.value? s w.target with
      | none => rfl
      | some value => exact congrArg some (hclosed.cyclic hown (listed_of_value? hvalue))
    · have hlink {s : UInt16} (hs : t.Decodes s) {d : Direction} (hd : d ∈ BlockType.links) :
          t.value? (t.turn s) d.quarterTurn.name = t.value? s d.name :=
        value?_turn_link ht hlinked (hclosed.links hlinked) hs hd
      have hd₁ := quarterTurn_mem_links hd
      have hd₂ := quarterTurn_mem_links hd₁
      have hd₃ := quarterTurn_mem_links hd₂
      have hs₁ := hclosed.decodes_turn ht hs
      have hs₂ := hclosed.decodes_turn ht hs₁
      have hs₃ := hclosed.decodes_turn ht hs₂
      -- the value comes from the fourth link before this one, which is this one
      show t.value? _ d.quarterTurn.name = t.value? s d.quarterTurn.name
      rw [hlink hs₃ hd, ← Direction.quarterTurn_four_times d, hlink hs₂ hd₃, hlink hs₁ hd₂,
        hlink hs hd₁, Direction.quarterTurn_four_times d]
  · simp only [value?_turn_of_not_mem ht hprop]

/-- **Four turns of a state are none.** -/
theorem turn_four_times (hclosed : t.Closed) (ht : Layout.Sound t.fields) (hs : t.Decodes s) :
    t.turn (t.turn (t.turn (t.turn s))) = s := by
  refine (state_eq_of_value? ht hclosed.distinct hs ?_ ?_).symm
  · exact fun prop => (hclosed.value?_turn_four_times ht hs prop).symm
  · intro i hi
    rw [testBit_turn ht hi, testBit_turn ht hi, testBit_turn ht hi, testBit_turn ht hi]

end Closed

end BlockType

/-! ## Turned voxels -/

/-- The rotation tag after a turn. -/
def turnedTag (r : UInt8) : UInt8 :=
  ((turnIndex? r.toNat).map UInt8.ofNat).getD r

theorem turnedTag_of_lt {r : UInt8} (h : r.toNat < 16) :
    (turnedTag r).toNat = (r.toNat + 12) % 16 := by
  rw [turnedTag, turnIndex?_of_lt h, Option.map_some, Option.getD_some, UInt8.toNat_ofNat']
  omega

/-- A tag that is no rotation index stays. -/
theorem turnedTag_of_le {r : UInt8} (h : 16 ≤ r.toNat) : turnedTag r = r := by
  rw [turnedTag, turnIndex?_of_le h, Option.map_none, Option.getD_none]

theorem turnedTag_four_times (r : UInt8) :
    turnedTag (turnedTag (turnedTag (turnedTag r))) = r := by
  by_cases h : r.toNat < 16
  · have h₁ := turnedTag_of_lt h
    have h₂ := turnedTag_of_lt (r := turnedTag r) (by omega)
    have h₃ := turnedTag_of_lt (r := turnedTag (turnedTag r)) (by omega)
    have h₄ := turnedTag_of_lt (r := turnedTag (turnedTag (turnedTag r))) (by omega)
    refine UInt8.toNat_inj.mp ?_
    omega
  · have hstay := turnedTag_of_le (Nat.not_lt.mp h)
    rw [hstay, hstay, hstay, hstay]

namespace Registry

variable {reg : Registry} {id : BlockId}

/-- A voxel of some type: the type turns its state. -/
theorem turn_of_get? {t : BlockType} (h : reg.get? id = some t) (s : UInt16) (rot : Option UInt8) :
    reg.turn ⟨⟨id, s⟩, rot⟩ = ⟨⟨id, t.turn s⟩, rot.map turnedTag⟩ := by
  show (⟨reg.turnBlock ⟨id, s⟩, rot.map turnedTag⟩ : Voxel) = _
  rw [turnBlock, h]

/-- A voxel of no type keeps its block. -/
theorem turn_of_get?_eq_none (h : reg.get? id = none) (s : UInt16) (rot : Option UInt8) :
    reg.turn ⟨⟨id, s⟩, rot⟩ = ⟨⟨id, s⟩, rot.map turnedTag⟩ := by
  show (⟨reg.turnBlock ⟨id, s⟩, rot.map turnedTag⟩ : Voxel) = _
  rw [turnBlock, h]

theorem id_turn (reg : Registry) (v : Voxel) : (reg.turn v).block.id = v.block.id := by
  show (reg.turnBlock v.block).id = v.block.id
  unfold turnBlock
  split <;> rfl

end Registry

/-- **Four quarter turns of a voxel are none, and a single one is about orientation only.** In a
registry, if the type of a voxel is closed under turns and its state decodes, then turning it four
times gives back the number, every bit of the state and the rotation tag, whatever the tag is. One
turn keeps the number and whether there is a tag; it keeps the value of each property that does not
say anything about orientation, and the bits of the state outside of all properties; and a block
without a type stays as it is. -/
theorem quarter_turns_come_round {cfg : RegistryConfig} {reg : Registry}
    (hbuild : Registry.build cfg = .ok reg) (v : Voxel) :
    ((∀ t, reg.get? v.block.id = some t → t.Closed ∧ t.Decodes v.block.state) →
      reg.turn (reg.turn (reg.turn (reg.turn v))) = v) ∧
    (reg.turn v).block.id = v.block.id ∧
    (reg.turn v).rot.isSome = v.rot.isSome ∧
    (reg.get? v.block.id = none → (reg.turn v).block = v.block) ∧
    ∀ t, reg.get? v.block.id = some t →
      (∀ prop, prop ∉ BlockType.oriented →
        t.value? (reg.turn v).block.state prop = t.value? v.block.state prop) ∧
      ∀ i, ¬ Layout.Holds t.fields i →
        (reg.turn v).block.state.toNat.testBit i = v.block.state.toNat.testBit i := by
  obtain ⟨⟨id, state⟩, rot⟩ := v
  have hrot : ((((rot.map turnedTag).map turnedTag).map turnedTag).map turnedTag) = rot := by
    cases rot with
    | none => rfl
    | some r => exact congrArg some (turnedTag_four_times r)
  refine ⟨?_, Registry.id_turn .., Option.isSome_map, ?_, ?_⟩
  · intro hshape
    cases hget : reg.get? id with
    | none => simp only [Registry.turn_of_get?_eq_none hget, hrot]
    | some t =>
      obtain ⟨hclosed, hdecodes⟩ := hshape t hget
      have ht := Registry.sound_of_get? hbuild hget
      simp only [Registry.turn_of_get? hget, hrot, hclosed.turn_four_times ht hdecodes]
  · intro hnone
    rw [Registry.turn_of_get?_eq_none hnone]
  · intro t hget
    have ht := Registry.sound_of_get? hbuild hget
    rw [Registry.turn_of_get? hget]
    refine ⟨fun prop hprop => ?_, fun i hi => BlockType.testBit_turn ht hi⟩
    exact BlockType.value?_turn_of_not_mem ht fun hmem => hprop (t.targets_subset hmem)

/-- The properties of a gate, with links, a direction and a rotation index. -/
def Schema.gate : Schema :=
  .ofList [("facing", ["north", "east", "south", "west"]), ("half", ["bottom", "top"]),
    ("rotation", ["0", "4", "8", "12"]), ("north", ["false", "true"]), ("east", ["true", "false"]),
    ("south", ["false", "true"]), ("west", ["true", "false"])]

/-- A registry of one gate. -/
def RegistryConfig.gate : RegistryConfig :=
  ⟨[⟨"gate", some 1, .gate⟩], [], none⟩

/-- The type of the gate. -/
def BlockType.gate : BlockType :=
  ⟨1, "gate", Layout.ofSchema .gate⟩

theorem RegistryConfig.gate_build :
    ∃ reg, Registry.build .gate = .ok reg ∧ reg.get? 1 = some .gate :=
  ⟨_, rfl, rfl⟩

theorem BlockType.gate_closed : BlockType.gate.Closed where
  distinct := by decide
  facing := by
    rintro ⟨i⟩
    revert i
    decide
  axis := by decide
  rotation := by
    intro value hvalue r hr
    have hall : ∀ value ∈ BlockType.gate.listed "rotation", ∀ i : Fin 16,
        Text.rotation? value.toList = some i.val → value = toString i.val ∧
          toString ((i.val + 12) % 16) ∈ BlockType.gate.listed "rotation" := by decide
    exact hall value hvalue ⟨r, lt_of_rotation? hr⟩ hr
  links := by decide

/-- A gate that faces south comes round, with a bit outside of its properties and with a tag that
is no rotation index, and stays in its half. -/
theorem quarter_turns_of_gate : ∃ reg, Registry.build .gate = .ok reg ∧
    reg.turn (reg.turn (reg.turn (reg.turn ⟨⟨1, 32941⟩, some 200⟩))) = ⟨⟨1, 32941⟩, some 200⟩ ∧
    BlockType.gate.value? 32941 "facing" = some "south" ∧
    BlockType.gate.value? (reg.turn ⟨⟨1, 32941⟩, some 200⟩).block.state "half" = some "top" := by
  obtain ⟨reg, hbuild, hget⟩ := RegistryConfig.gate_build
  obtain ⟨hround, -, -, -, honce⟩ := quarter_turns_come_round hbuild ⟨⟨1, 32941⟩, some 200⟩
  refine ⟨reg, hbuild, hround ?_, by decide, ?_⟩
  · intro t ht
    rw [← Option.some.inj (hget.symm.trans ht)]
    exact ⟨BlockType.gate_closed, by decide⟩
  · exact ((honce .gate hget).1 "half" (by decide)).trans (by decide)

end PlotGrid
