import PlotGrid.Proofs.Overlay.Drops

/-!
# What wins where fragments overlap

Fragments may be wider than the cell. They wrap around it, so that voxels of one fragment or of
several go to one cell of the overlay, and the last one stays. Voxels are placed in an order that
their sites tell: by the pass of the slot, then by column and height, and in one cell of the road
segment straight before turned. So the sites are listed in an increasing order, and the voxel that
stays is that of the greatest site.

- `IsLast`: the last entry with a property.
- `Slot.pass`, `Site.Before`: the order of sites.
- `ColumnSite`: a column of a fragment with a slot, which puts a biome.
- `Fragments.pairwise_sites`, `Fragments.pairwise_columnSites`: sites are listed in order.
- `Overlay.cell?_eq_some_iff_isLast`, `Overlay.biome?_eq_some_iff_isLast`: what is left of them.
- `last_pass_wins`: both for a build that does not overflow.
-/

namespace PlotGrid

/-! ## The last entry of a list -/

/-- An entry with a property that comes after all others that have it. -/
structure IsLast {α : Type} (before : α → α → Prop) (p : α → Prop) (a : α) : Prop where
  holds : p a
  last : ∀ b, p b → b = a ∨ before b a

section

variable {α β : Type} {before : α → α → Prop} {l : List α} {φ : α → Option β} {b : β}

/-- What is found first from the end of a list in order is found for the last entry. -/
theorem exists_isLast_of_findSome? (h : l.Pairwise before)
    (hb : l.reverse.findSome? φ = some b) :
    ∃ a, IsLast before (fun a => a ∈ l ∧ (φ a).isSome) a ∧ φ a = some b := by
  obtain ⟨later, a, earlier, hl, hab, hlater⟩ := List.findSome?_eq_some_iff.mp hb
  have hsplit : l = earlier.reverse ++ a :: later.reverse := by
    rw [← List.reverse_reverse l, hl]
    simp
  refine ⟨a, ⟨⟨?_, ?_⟩, fun a' ha' => ?_⟩, hab⟩
  · rw [hsplit]
    exact List.mem_append_right _ List.mem_cons_self
  · rw [hab]
    rfl
  · obtain ⟨hmem, hsome⟩ := ha'
    rw [hsplit] at h hmem
    rcases List.mem_append.mp hmem with hearlier | hmem
    · exact .inr ((List.pairwise_append.mp h).2.2 a' hearlier a List.mem_cons_self)
    · rcases List.mem_cons.mp hmem with rfl | hmem
      · exact .inl rfl
      · -- nothing was found after the entry
        rw [hlater a' (List.mem_reverse.mp hmem)] at hsome
        cases hsome

/-- There is at most one last entry. -/
theorem IsLast.eq (hasymm : ∀ a b, before a b → ¬ before b a) {p : α → Prop} {a a' : α}
    (h : IsLast before p a) (h' : IsLast before p a') : a = a' := by
  rcases h'.last a h.holds with heq | hbefore
  · exact heq
  · rcases h.last a' h'.holds with heq | hafter
    · exact heq.symm
    · exact absurd hafter (hasymm a a' hbefore)

/-- **The search from the end of a list in order finds what the last entry gives**, if it is told
which entries give something, and what. -/
theorem reverse_findSome?_eq_some_iff {p : α → Prop} {val : α → β} (h : l.Pairwise before)
    (hasymm : ∀ a b, before a b → ¬ before b a) (hφ : ∀ a b, φ a = some b ↔ p a ∧ val a = b) :
    l.reverse.findSome? φ = some b ↔
      ∃ a, IsLast before (fun a => a ∈ l ∧ p a) a ∧ val a = b := by
  have hgives (a : α) : (φ a).isSome ↔ p a := by
    simp only [Option.isSome_iff_exists, hφ, exists_and_left, exists_eq', and_true]
  have hlast {b' : β} (hb' : l.reverse.findSome? φ = some b') :
      ∃ a, IsLast before (fun a => a ∈ l ∧ p a) a ∧ val a = b' := by
    obtain ⟨a, hlast, hab⟩ := exists_isLast_of_findSome? h hb'
    simp only [hgives] at hlast
    exact ⟨a, hlast, ((hφ a b').mp hab).2⟩
  refine ⟨hlast, ?_⟩
  rintro ⟨a, ha, hab⟩
  cases hfind : l.reverse.findSome? φ with
  | none =>
    have hnone := List.findSome?_eq_none_iff.mp hfind a (List.mem_reverse.mpr ha.holds.1)
    rw [(hφ a b).mpr ⟨ha.holds.2, hab⟩] at hnone
    cases hnone
  | some b' =>
    obtain ⟨a', ha', hab'⟩ := hlast hfind
    rw [← hab, ← hab', ha.eq hasymm ha']

/-- If an entry has a property, one is the last to have it. -/
theorem exists_isLast {p : α → Prop} (h : l.Pairwise before) {a : α} (ha : a ∈ l) (hp : p a) :
    ∃ a', IsLast before (fun a => a ∈ l ∧ p a) a' := by
  classical
  have hgives (a : α) : (if p a then some a else none).isSome ↔ p a := by
    split <;> simp_all
  cases hfind : l.reverse.findSome? fun a => if p a then some a else none with
  | none =>
    have hnone := List.findSome?_eq_none_iff.mp hfind a (List.mem_reverse.mpr ha)
    rw [if_pos hp] at hnone
    cases hnone
  | some b =>
    obtain ⟨a', hlast, -⟩ := exists_isLast_of_findSome? h hfind
    simp only [hgives] at hlast
    exact ⟨a', hlast⟩

end

/-! ## The order of sites -/

namespace Slot

/-- The number of the pass that fills a slot: the plot template, the road segment, the
intersection. -/
def pass : Slot → Nat
  | .plot => 0
  | .straight | .turned => 1
  | .crossing => 2

/-- The number of a slot within its pass. -/
def arm : Slot → Nat
  | .plot | .straight | .crossing => 0
  | .turned => 1

/-- A column of a fragment comes to a position, wrapped around the cell. -/
structure ComesTo (g : Geometry) (c : Clip) (s : Slot) (x z : Nat) (cx cz : Int) : Prop where
  fst : (s.spot g c x z).1 % (g.plotWidth + g.roadWidth) = cx % (g.plotWidth + g.roadWidth)
  snd : (s.spot g c x z).2 % (g.plotWidth + g.roadWidth) = cz % (g.plotWidth + g.roadWidth)

theorem key_eq_key_iff {g : Geometry} {c : Clip} {s : Slot} {x z : Nat} {cx cz : Int}
    (hpos : 1 ≤ g.plotWidth + g.roadWidth) (hsize : g.plotWidth + g.roadWidth ≤ greatestSize) :
    Cell.key (g.plotWidth + g.roadWidth) (s.spot g c x z).1 (s.spot g c x z).2 =
      Cell.key (g.plotWidth + g.roadWidth) cx cz ↔ s.ComesTo g c x z cx cz := by
  unfold greatestSize at hsize
  rw [Cell.key_eq_key_iff (by omega) (by omega)]
  exact ⟨fun h => ⟨h.1, h.2⟩, fun h => ⟨h.fst, h.snd⟩⟩

end Slot

namespace Site

/-- When the voxel of a site is placed: by pass, column, height and arm, in this order. -/
def moment (t : Site) : List Nat :=
  [t.slot.pass, t.x, t.z, t.y, t.slot.arm]

/-- The voxel of a site is placed before that of another one. -/
def Before (t t' : Site) : Prop :=
  t.moment < t'.moment

/-- A site whose voxel is placed: one of a road fragment only where the roads have a width. -/
structure Placed (f : Fragments) (g : Geometry) (t : Site) : Prop where
  of : t.Of f
  road : t.slot ≠ .plot → g.roadWidth ≠ 0

/-- A site goes to an index of the column at a position. -/
structure Targets (plan : Plan) (x z i : Int) (t : Site) : Prop where
  position : t.slot.ComesTo plan.geometry t.clip t.x t.z x z
  index : t.y + t.slot.base plan.anchors = i

theorem before_iff {t t' : Site} : t.Before t' ↔
    t.slot.pass < t'.slot.pass ∨ t.slot.pass = t'.slot.pass ∧
      (t.x < t'.x ∨ t.x = t'.x ∧ (t.z < t'.z ∨ t.z = t'.z ∧
        (t.y < t'.y ∨ t.y = t'.y ∧ t.slot.arm < t'.slot.arm))) := by
  simp [Before, moment, List.cons_lt_cons_iff]

theorem Before.asymm {t t' : Site} (h : t.Before t') : ¬ t'.Before t :=
  List.lt_asymm h

theorem Before.pass_le {t t' : Site} (h : t.Before t') : t.slot.pass ≤ t'.slot.pass := by
  rw [before_iff] at h
  omega

end Site

/-- A column of a fragment with a slot that it is placed in. -/
structure ColumnSite where
  slot : Slot
  clip : Clip
  x : Nat
  z : Nat

namespace ColumnSite

/-- The placement of the biome of a column. -/
def placement (plan : Plan) (t : ColumnSite) : Placement :=
  t.slot.biomePlacement plan t.clip t.x t.z

/-- When the biome of a column is placed: by pass, column and arm, in this order. -/
def moment (t : ColumnSite) : List Nat :=
  [t.slot.pass, t.x, t.z, t.slot.arm]

/-- The biome of a column is placed before that of another one. -/
def Before (t t' : ColumnSite) : Prop :=
  t.moment < t'.moment

/-- A column whose biome is placed: one of a road fragment only where the roads have a width. -/
structure Placed (f : Fragments) (g : Geometry) (t : ColumnSite) : Prop where
  clip : Slot.clip? f t.slot = some t.clip
  column : (t.x, t.z) ∈ t.clip.columnList
  road : t.slot ≠ .plot → g.roadWidth ≠ 0

/-- A column goes to a position. -/
def Targets (g : Geometry) (x z : Int) (t : ColumnSite) : Prop :=
  t.slot.ComesTo g t.clip t.x t.z x z

theorem before_iff {t t' : ColumnSite} : t.Before t' ↔
    t.slot.pass < t'.slot.pass ∨ t.slot.pass = t'.slot.pass ∧
      (t.x < t'.x ∨ t.x = t'.x ∧ (t.z < t'.z ∨ t.z = t'.z ∧ t.slot.arm < t'.slot.arm)) := by
  simp [Before, moment, List.cons_lt_cons_iff]

theorem Before.asymm {t t' : ColumnSite} (h : t.Before t') : ¬ t'.Before t :=
  List.lt_asymm h

end ColumnSite

/-! ## Sites are listed in order -/

namespace Clip

variable {c : Clip} {slots : List Slot}

/-- The columns of a fragment with its slots. -/
def columnSites (c : Clip) (slots : List Slot) : List ColumnSite :=
  c.columnList.flatMap fun (x, z) => slots.map fun s => ⟨s, c, x, z⟩

theorem pairwise_columnList :
    c.columnList.Pairwise fun a b => a.1 < b.1 ∨ a.1 = b.1 ∧ a.2 < b.2 := by
  unfold columnList
  split
  · exact List.Pairwise.nil
  · refine List.pairwise_flatMap.mpr ⟨fun x _ => ?_, ?_⟩
    · exact List.pairwise_map.mpr (List.pairwise_lt_range.imp fun h => .inr ⟨rfl, h⟩)
    · refine List.pairwise_lt_range.imp fun h a ha b hb => .inl ?_
      obtain ⟨z, -, rfl⟩ := List.mem_map.mp ha
      obtain ⟨z', -, rfl⟩ := List.mem_map.mp hb
      exact h

theorem pairwise_solids (x z : Nat) : (c.solids x z).Pairwise fun a b => a.1 < b.1 := by
  refine List.pairwise_filterMap.mpr (List.pairwise_lt_range.imp ?_)
  intro y y' hlt a ha b hb
  dsimp only at ha hb
  split at ha
  · cases ha
  · split at hb
    · cases hb
    · rw [← Option.some.inj ha, ← Option.some.inj hb]
      exact hlt

theorem mem_columnSites_iff {t : ColumnSite} :
    t ∈ c.columnSites slots ↔ t.slot ∈ slots ∧ t.clip = c ∧ (t.x, t.z) ∈ c.columnList := by
  simp only [columnSites, List.mem_flatMap, List.mem_map]
  constructor
  · rintro ⟨⟨x, z⟩, hcol, s, hs, rfl⟩
    exact ⟨hs, rfl, hcol⟩
  · obtain ⟨s, c', x, z⟩ := t
    rintro ⟨hs, rfl, hcol⟩
    exact ⟨(x, z), hcol, s, hs, rfl⟩

/-- Within one pass, voxels are placed column by column, from below, straight before turned. -/
theorem pairwise_sites (hpass : ∀ s ∈ slots, ∀ s' ∈ slots, s.pass = s'.pass)
    (harm : slots.Pairwise fun s s' => s.arm < s'.arm) : (c.sites slots).Pairwise Site.Before := by
  refine List.pairwise_flatMap.mpr ⟨fun column _ => ?_, ?_⟩
  · obtain ⟨x, z⟩ := column
    refine List.pairwise_flatMap.mpr ⟨fun cell _ => ?_, ?_⟩
    · refine List.pairwise_map.mpr (harm.imp_of_mem fun hs hs' hlt => ?_)
      exact Site.before_iff.mpr (.inr ⟨hpass _ hs _ hs', .inr ⟨rfl, .inr ⟨rfl, .inr ⟨rfl, hlt⟩⟩⟩⟩)
    · refine (pairwise_solids x z).imp fun hlt t ht t' ht' => ?_
      obtain ⟨s, hs, rfl⟩ := List.mem_map.mp ht
      obtain ⟨s', hs', rfl⟩ := List.mem_map.mp ht'
      exact Site.before_iff.mpr (.inr ⟨hpass _ hs _ hs', .inr ⟨rfl, .inr ⟨rfl, .inl hlt⟩⟩⟩)
  · refine pairwise_columnList.imp fun hlt t ht t' ht' => ?_
    simp only [List.mem_flatMap, List.mem_map] at ht ht'
    obtain ⟨_, _, s, hs, rfl⟩ := ht
    obtain ⟨_, _, s', hs', rfl⟩ := ht'
    exact Site.before_iff.mpr
      (.inr ⟨hpass _ hs _ hs', hlt.imp_right fun h => ⟨h.1, .inl h.2⟩⟩)

theorem pairwise_columnSites (hpass : ∀ s ∈ slots, ∀ s' ∈ slots, s.pass = s'.pass)
    (harm : slots.Pairwise fun s s' => s.arm < s'.arm) :
    (c.columnSites slots).Pairwise ColumnSite.Before := by
  refine List.pairwise_flatMap.mpr ⟨fun column _ => ?_, ?_⟩
  · obtain ⟨x, z⟩ := column
    refine List.pairwise_map.mpr (harm.imp_of_mem fun hs hs' hlt => ?_)
    exact ColumnSite.before_iff.mpr (.inr ⟨hpass _ hs _ hs', .inr ⟨rfl, .inr ⟨rfl, hlt⟩⟩⟩)
  · refine pairwise_columnList.imp fun hlt t ht t' ht' => ?_
    obtain ⟨s, hs, rfl⟩ := List.mem_map.mp ht
    obtain ⟨s', hs', rfl⟩ := List.mem_map.mp ht'
    exact ColumnSite.before_iff.mpr
      (.inr ⟨hpass _ hs _ hs', hlt.imp_right fun h => ⟨h.1, .inl h.2⟩⟩)

end Clip

namespace Fragments

variable {f : Fragments} {g : Geometry} {plan : Plan}

/-- The columns of a set of fragments with their slots. -/
def columnSites (f : Fragments) (g : Geometry) : List ColumnSite :=
  (f.fillings g).flatMap fun filling => filling.1.columnSites filling.2

/-- Every fragment has its own pass, in which it fills its slots in turn. -/
theorem fillings_in_order :
    (∀ filling ∈ f.fillings g, (∀ s ∈ filling.2, ∀ s' ∈ filling.2, s.pass = s'.pass) ∧
      filling.2.Pairwise fun s s' => s.arm < s'.arm) ∧
    (f.fillings g).Pairwise fun a b => ∀ s ∈ a.2, ∀ s' ∈ b.2, s.pass < s'.pass := by
  unfold fillings
  split <;> cases f.plot <;> cases f.sideroad <;> cases f.intersection <;>
    simp [Slot.pass, Slot.arm]

/-- **The voxels of fragments are placed in order.** -/
theorem pairwise_sites : (f.sites g).Pairwise Site.Before := by
  obtain ⟨hwithin, hpasses⟩ := fillings_in_order (f := f) (g := g)
  refine List.pairwise_flatMap.mpr ⟨fun filling hfill => ?_, hpasses.imp ?_⟩
  · exact Clip.pairwise_sites (hwithin filling hfill).1 (hwithin filling hfill).2
  · intro a b hlt t ht t' ht'
    exact Site.before_iff.mpr
      (.inl (hlt _ (Clip.mem_sites_iff.mp ht).1 _ (Clip.mem_sites_iff.mp ht').1))

/-- **The biomes of fragments are placed in order.** -/
theorem pairwise_columnSites : (f.columnSites g).Pairwise ColumnSite.Before := by
  obtain ⟨hwithin, hpasses⟩ := fillings_in_order (f := f) (g := g)
  refine List.pairwise_flatMap.mpr ⟨fun filling hfill => ?_, hpasses.imp ?_⟩
  · exact Clip.pairwise_columnSites (hwithin filling hfill).1 (hwithin filling hfill).2
  · intro a b hlt t ht t' ht'
    exact ColumnSite.before_iff.mpr
      (.inl (hlt _ (Clip.mem_columnSites_iff.mp ht).1 _ (Clip.mem_columnSites_iff.mp ht').1))

/-- The sites of a set of fragments are those that are placed. -/
theorem mem_sites_iff_placed {t : Site} : t ∈ f.sites g ↔ t.Placed f g := by
  rw [mem_sites_iff]
  constructor
  · rintro ⟨hof, hroad⟩
    exact ⟨hof, fun hs => (hasRoad_iff_of_clip? hof.clip hs).mp (hroad hs)⟩
  · rintro ⟨hof, hroad⟩
    exact ⟨hof, fun hs => (hasRoad_iff_of_clip? hof.clip hs).mpr (hroad hs)⟩

theorem mem_columnSites_iff_placed {t : ColumnSite} : t ∈ f.columnSites g ↔ t.Placed f g := by
  simp only [columnSites, List.mem_flatMap, Prod.exists, Clip.mem_columnSites_iff]
  constructor
  · rintro ⟨c, slots, hfill, hs, rfl, hcol⟩
    obtain ⟨hclip, hroad⟩ := exists_filling_iff.mp ⟨slots, hfill, hs⟩
    exact ⟨hclip, hcol, fun hs => (hasRoad_iff_of_clip? hclip hs).mp (hroad hs)⟩
  · rintro ⟨hclip, hcol, hroad⟩
    obtain ⟨slots, hfill, hs⟩ := exists_filling_iff.mpr
      ⟨hclip, fun hs => (hasRoad_iff_of_clip? hclip hs).mpr (hroad hs)⟩
    exact ⟨t.clip, slots, hfill, hs, rfl, hcol⟩

/-- What a course has besides voxels is the biomes of columns. -/
theorem filterMap_course_columns {β : Type} {φ : Placement → Option β}
    (hvoxel : ∀ x y z v isTurned height, φ (.voxel x y z v isTurned height) = Option.none) :
    (f.course plan).filterMap φ =
      (f.columnSites plan.geometry).filterMap fun t => φ (t.placement plan) := by
  -- both lists are nested alike; only the voxels at the start of each column are left out
  rw [course, columnSites, List.filterMap_flatMap, List.filterMap_flatMap]
  refine List.flatMap_congr ?_
  intro filling _
  rw [Clip.course, Clip.columnSites, List.filterMap_flatMap, List.filterMap_flatMap]
  refine List.flatMap_congr ?_
  intro column _
  obtain ⟨x, z⟩ := column
  dsimp only
  have hvoxels : ((filling.1.solids x z).flatMap fun cell =>
      filling.2.map (Slot.voxelPlacement plan filling.1 x z cell)).filterMap φ = [] := by
    refine List.filterMap_eq_nil_iff.mpr fun p hp => ?_
    obtain ⟨cell, -, hp⟩ := List.mem_flatMap.mp hp
    obtain ⟨s, -, rfl⟩ := List.mem_map.mp hp
    exact hvoxel ..
  rw [List.filterMap_append, hvoxels, List.nil_append, List.filterMap_map, List.filterMap_map]
  rfl

end Fragments

/-! ## What is left of a course -/

section

variable {f : Fragments} {plan : Plan} {reg : Registry} {x z : Int}

theorem Fragments.reverse_findSome?_course {β : Type} {φ : Placement → Option β}
    (hbiome : ∀ x z tag, φ (.biome x z tag) = Option.none) :
    (f.course plan).reverse.findSome? φ =
      (f.sites plan.geometry).reverse.findSome? fun t => φ (t.placement plan) := by
  rw [← List.head?_filterMap, List.filterMap_reverse, filterMap_course hbiome,
    ← List.filterMap_reverse, List.head?_filterMap]

theorem Fragments.reverse_findSome?_course_columns {β : Type} {φ : Placement → Option β}
    (hvoxel : ∀ x y z v isTurned height, φ (.voxel x y z v isTurned height) = Option.none) :
    (f.course plan).reverse.findSome? φ =
      (f.columnSites plan.geometry).reverse.findSome? fun t => φ (t.placement plan) := by
  rw [← List.head?_filterMap, List.filterMap_reverse, filterMap_course_columns hvoxel,
    ← List.filterMap_reverse, List.head?_filterMap]

variable (hpos : 1 ≤ plan.geometry.plotWidth + plan.geometry.roadWidth)
  (hsize : plan.geometry.plotWidth + plan.geometry.roadWidth ≤ greatestSize)

include hpos hsize

/-- The placement of a site puts its voxel where the site goes to. -/
theorem Site.voxelAt?_placement {t : Site} {i : Nat} {v : Voxel} :
    (t.placement plan).voxelAt? reg (plan.geometry.plotWidth + plan.geometry.roadWidth)
        (Cell.key (plan.geometry.plotWidth + plan.geometry.roadWidth) x z) i = some v ↔
      t.Targets plan x z i ∧ t.slot.shown reg t.voxel = v := by
  have hshown : (t.placement plan).shown? reg = some (t.slot.shown reg t.voxel) := rfl
  have hspot : (t.placement plan).spot? (plan.geometry.plotWidth + plan.geometry.roadWidth) =
        some (Cell.key (plan.geometry.plotWidth + plan.geometry.roadWidth) x z, (i : Int)) ↔
      t.Targets plan x z i := by
    rw [placement, Slot.voxelPlacement, Placement.spot?, Option.some.injEq, Prod.mk.injEq,
      Slot.key_eq_key_iff hpos hsize]
    exact ⟨fun h => ⟨h.1, h.2⟩, fun h => ⟨h.position, h.index⟩⟩
  rw [Placement.voxelAt?, hshown]
  split
  · rename_i h
    rw [and_iff_right (hspot.mp h), Option.some.injEq]
  · rename_i h
    exact iff_of_false (Option.some_ne_none _).symm fun hboth => h (hspot.mpr hboth.1)

/-- The placement of a column puts its biome where the column goes to. -/
theorem ColumnSite.biomeSet?_placement {t : ColumnSite} {tag : Option BiomeTag} :
    (t.placement plan).biomeSet? (plan.geometry.plotWidth + plan.geometry.roadWidth)
        (Cell.key (plan.geometry.plotWidth + plan.geometry.roadWidth) x z) = some tag ↔
      t.Targets plan.geometry x z ∧ t.clip.biomeAt t.x t.z = tag := by
  have hspot : _ ↔ t.slot.ComesTo plan.geometry t.clip t.x t.z x z :=
    Slot.key_eq_key_iff hpos hsize
  rw [placement, Slot.biomePlacement, Placement.biomeSet?, Targets, ← hspot]
  split
  · rename_i h
    rw [and_iff_right h, Option.some.injEq]
  · rename_i h
    exact iff_of_false (Option.some_ne_none _).symm fun hboth => h hboth.1

/-- **The last voxel that a course puts into a cell is that of the last site that goes there.** -/
theorem Fragments.last_voxel_iff {i : Nat} {v : Voxel} :
    (f.course plan).reverse.findSome?
        (Placement.voxelAt? reg (plan.geometry.plotWidth + plan.geometry.roadWidth)
          (Cell.key (plan.geometry.plotWidth + plan.geometry.roadWidth) x z) i) = some v ↔
      ∃ t, IsLast Site.Before (fun t => t.Placed f plan.geometry ∧ t.Targets plan x z i) t ∧
        t.slot.shown reg t.voxel = v := by
  rw [reverse_findSome?_course fun _ _ _ => by rfl,
    reverse_findSome?_eq_some_iff pairwise_sites (fun _ _ => Site.Before.asymm)
      fun _ _ => Site.voxelAt?_placement hpos hsize]
  simp only [mem_sites_iff_placed]

/-- **The last biome that a course puts at a position is that of the last column that goes there.**
-/
theorem Fragments.last_biome_iff {tag : Option BiomeTag} :
    (f.course plan).reverse.findSome?
        (Placement.biomeSet? (plan.geometry.plotWidth + plan.geometry.roadWidth)
          (Cell.key (plan.geometry.plotWidth + plan.geometry.roadWidth) x z)) = some tag ↔
      ∃ t, IsLast ColumnSite.Before
          (fun t => t.Placed f plan.geometry ∧ t.Targets plan.geometry x z) t ∧
        t.clip.biomeAt t.x t.z = tag := by
  rw [reverse_findSome?_course_columns fun _ _ _ _ _ _ => by rfl,
    reverse_findSome?_eq_some_iff pairwise_columnSites (fun _ _ => ColumnSite.Before.asymm)
      fun _ _ => ColumnSite.biomeSet?_placement hpos hsize]
  simp only [mem_columnSites_iff_placed]

end

/-! ## What wins in an overlay -/

namespace Overlay

variable {reg : Registry} {g : Geometry} {s : SchematicSettings} {f : Fragments} {o : Overlay}
  {notices : Array Notice} {x z : Int}

theorem size_of_build (h : (build reg g s f).exec = (.ok o, notices)) :
    o.size = g.plotWidth + g.roadWidth :=
  (Coord.add_eq_ok_iff.mp (start_of_build h).2.1).2

/-- Sites do not go below the start of an overlay. -/
theorem nonneg_of_targets (h : (build reg g s f).exec = (.ok o, notices)) {i : Int} {t : Site}
    (ht : t.Of f) (htarget : t.Targets ⟨g, s, o.anchors⟩ x z i) : 0 ≤ i := by
  have hbase := Slot.base_nonneg (start_of_build h).1 ht.clip
  have hindex : t.y + t.slot.base o.anchors = i := htarget.index
  omega

/-- **A cell shows the voxel of the last site that goes there**, if its column reaches it. -/
theorem cell?_eq_some_iff_isLast (h : (build reg g s f).exec = (.ok o, notices))
    (hpos : 1 ≤ g.plotWidth + g.roadWidth) (hsize : g.plotWidth + g.roadWidth ≤ greatestSize)
    {i : Int} {v : Voxel} :
    o.cell? x z i = some v ↔
      (∃ column, o.column? x z = some column ∧ i < column.size) ∧
        ∃ t, IsLast Site.Before
            (fun t => t.Placed f g ∧ t.Targets ⟨g, s, o.anchors⟩ x z i) t ∧
          t.slot.shown reg t.voxel = v := by
  by_cases hi : 0 ≤ i
  · obtain ⟨n, rfl⟩ := Int.eq_ofNat_of_zero_le hi
    have hcolumn : o.columnSize? (Cell.key (g.plotWidth + g.roadWidth) x z) =
        (o.column? x z).map Array.size := by
      rw [column?, size_of_build h]
      rfl
    have hlast := @Fragments.last_voxel_iff f ⟨g, s, o.anchors⟩ reg x z hpos hsize n v
    rw [cell?, if_pos hi, Int.toNat_natCast, held?_of_build h, Fragments.leaves?,
      ← columnSize?_of_build h, size_of_build h, hcolumn]
    cases o.column? x z with
    | none => simp
    | some column =>
      rw [Option.map_some, Option.bind_some]
      by_cases hn : n < column.size
      · rw [if_pos hn, hlast]
        exact (and_iff_right ⟨column, rfl, Int.ofNat_lt.mpr hn⟩).symm
      · rw [if_neg hn]
        refine iff_of_false (Option.some_ne_none v).symm ?_
        rintro ⟨⟨column', hcolumn', hlt⟩, -⟩
        rw [Option.some.inj hcolumn'] at hn
        omega
  · rw [cell?, if_neg hi]
    refine iff_of_false (Option.some_ne_none v).symm ?_
    rintro ⟨-, t, hlast, -⟩
    exact hi (nonneg_of_targets h hlast.holds.1.of hlast.holds.2)

/-- **A position has the biome of the last column that goes there.** -/
theorem biome?_eq_some_iff_isLast (h : (build reg g s f).exec = (.ok o, notices))
    (hpos : 1 ≤ g.plotWidth + g.roadWidth) (hsize : g.plotWidth + g.roadWidth ≤ greatestSize)
    {tag : BiomeTag} :
    o.biome? x z = some tag ↔
      ∃ t, IsLast ColumnSite.Before (fun t => t.Placed f g ∧ t.Targets g x z) t ∧
        t.clip.biomeAt t.x t.z = some tag := by
  have hS := size_of_build h
  rw [← @Fragments.last_biome_iff f ⟨g, s, o.anchors⟩ x z hpos hsize, biome?, hS]
  obtain ⟨blank, hstart, -, d, hd, -, rfl, -⟩ := build_eq_ok h
  obtain ⟨hanchors, -, -, -, hbiomes, -⟩ := start_eq_ok hstart
  have hblank : blank.size = g.plotWidth + g.roadWidth := by
    rw [← hS, hd, Draft.size_foldl]
  have hfinal : d.overlay.anchors = blank.anchors := by
    rw [hd, Draft.anchors_foldl]
  rw [hfinal, hd, Draft.biomes_foldl, hbiomes, Std.HashMap.getElem?_empty, hblank]
  cases List.findSome? _ (f.course ⟨g, s, blank.anchors⟩).reverse with
  | none => exact iff_of_false nofun nofun
  | some tag' => rw [Option.getD_some, Option.some.injEq]

end Overlay

/-- **The last pass wins.** A build that does not overflow has a result for fragments of any size. A
cell shows a voxel iff its column reaches the cell and a voxel that is not air goes there, and it
shows the last of these: the intersection comes after the road segment and that after the plot
template; within the road segment, columns come by `x` and `z`, their voxels from below, and each of
them straight before turned. So a voxel that goes to a cell within its column gives way to one of
its own or of a later pass only. A position has the biome of the last column that goes there, in the
same order, and none if that column has none. -/
theorem last_pass_wins {reg : Registry} {g : Geometry} {s : SchematicSettings} {f : Fragments}
    (hpos : 1 ≤ g.plotWidth + g.roadWidth) (hsize : g.plotWidth + g.roadWidth ≤ greatestSize)
    (hrun : (Overlay.build reg g s f).exec.1 ≠ .error .overflow) :
    ∃ o notices, (Overlay.build reg g s f).exec = (.ok o, notices) ∧
      f.anchors g s = .ok o.anchors ∧
      (∀ x z i v, o.cell? x z i = some v ↔
        (∃ column, o.column? x z = some column ∧ i < column.size) ∧
          ∃ t, IsLast Site.Before
              (fun t => t.Placed f g ∧ t.Targets ⟨g, s, o.anchors⟩ x z i) t ∧
            t.slot.shown reg t.voxel = v) ∧
      (∀ x z i (t : Site), t.Placed f g → t.Targets ⟨g, s, o.anchors⟩ x z i →
        (∃ column, o.column? x z = some column ∧ i < column.size) →
          ∃ t' : Site, t'.Placed f g ∧ t'.Targets ⟨g, s, o.anchors⟩ x z i ∧
            t.slot.pass ≤ t'.slot.pass ∧
            o.cell? x z i = some (t'.slot.shown reg t'.voxel)) ∧
      (∀ x z tag, o.biome? x z = some tag ↔
        ∃ t, IsLast ColumnSite.Before (fun t => t.Placed f g ∧ t.Targets g x z) t ∧
          t.clip.biomeAt t.x t.z = some tag) ∧
      ∀ x z (t : ColumnSite), t.Placed f g → t.Targets g x z →
        ∃ t', IsLast ColumnSite.Before (fun t => t.Placed f g ∧ t.Targets g x z) t' ∧
          o.biome? x z = t'.clip.biomeAt t'.x t'.z := by
  obtain ⟨o, notices, hexec⟩ := Overlay.exists_build_eq_of_pos (by omega) hrun
  have hcell {x z i : Int} {v : Voxel} : o.cell? x z i = some v ↔ _ :=
    Overlay.cell?_eq_some_iff_isLast hexec hpos hsize
  have hbiome {x z : Int} {tag : BiomeTag} : o.biome? x z = some tag ↔ _ :=
    Overlay.biome?_eq_some_iff_isLast hexec hpos hsize
  refine ⟨o, notices, hexec, (Overlay.start_of_build hexec).1, fun _ _ _ _ => hcell, ?_,
    fun _ _ _ => hbiome, ?_⟩
  · intro x z i t ht htarget hcolumn
    obtain ⟨t', hlast⟩ := exists_isLast (p := fun t => t.Targets ⟨g, s, o.anchors⟩ x z i)
      Fragments.pairwise_sites (Fragments.mem_sites_iff_placed.mpr ht) htarget
    simp only [Fragments.mem_sites_iff_placed] at hlast
    refine ⟨t', hlast.holds.1, hlast.holds.2, ?_, hcell.mpr ⟨hcolumn, t', hlast, rfl⟩⟩
    rcases hlast.last t ⟨ht, htarget⟩ with rfl | hbefore
    · exact Nat.le_refl _
    · exact hbefore.pass_le
  · intro x z t ht htarget
    obtain ⟨t', hlast⟩ := exists_isLast (p := fun t => t.Targets g x z)
      Fragments.pairwise_columnSites (Fragments.mem_columnSites_iff_placed.mpr ht) htarget
    simp only [Fragments.mem_columnSites_iff_placed] at hlast
    refine ⟨t', hlast, ?_⟩
    cases htag : t'.clip.biomeAt t'.x t'.z with
    | some tag => exact hbiome.mpr ⟨t', hlast, htag⟩
    | none =>
      -- a biome would be that of the last column, which has none
      refine Option.eq_none_iff_forall_not_mem.mpr fun tag hmem => ?_
      obtain ⟨t'', hlast', htag'⟩ := hbiome.mp hmem
      rw [← hlast.eq (fun _ _ => ColumnSite.Before.asymm) hlast', htag] at htag'
      cases htag'

/-! ## A wide template below a road -/

/-- A wall of six blocks, three in a row. -/
def Clip.wall : Clip :=
  ⟨3, 2, 1, .replicate 6 ⟨⟨1, 0⟩, .none⟩, .replicate 3 .none⟩

/-- A plot template that is wider than its plot, and a road that starts higher. -/
def Fragments.walled : Fragments where
  plot := some .wall
  sideroad := some .post
  intersection := .none

theorem Fragments.walled_anchors : Fragments.walled.anchors .small .default = .ok ⟨3, 0, 1⟩ := by
  decide +kernel

theorem Overlay.walled_runs :
    (Overlay.build .blank .small .default .walled).exec.1 ≠ .error .overflow :=
  ne_overflow_of_isOk Geometry.small_paved Fragments.walled_anchors (by decide +kernel)

/-- The column in which the road stands is made by the plot template. -/
theorem Fragments.walled_heightAt :
    (Fragments.walled.course ⟨.small, .default, ⟨3, 0, 1⟩⟩).findSome?
      (Placement.heightAt? 3 (Cell.key 3 0 1)) = some 2 := by
  decide +kernel

/-- The voxels of the post are equal, and beyond them there is air. -/
theorem Clip.eq_of_post {x y z : Nat} (h : (Clip.post.cell x y z).isAir = false) :
    Clip.post.cell x y z = ⟨⟨2, 0⟩, .none⟩ := by
  unfold cell at h ⊢
  generalize Clip.post.index x y z = i at h ⊢
  match i with
  | 0 | 1 => rfl
  | n + 2 =>
    have hbeyond : Clip.post.voxels.getD (n + 2) .air = .air := by simp [Vector.getD, Clip.post]
    rw [hbeyond] at h
    cases h

/-- A road of posts shows nothing but posts. -/
theorem Site.shown_of_walled {t : Site} (ht : t.Placed .walled .small) (hpass : 1 ≤ t.slot.pass) :
    t.slot.shown .blank t.voxel = ⟨⟨2, 0⟩, none⟩ := by
  have hclip := ht.of.clip
  obtain ⟨-, hvoxel, hair⟩ := Clip.mem_solids_iff.mp ht.of.voxel
  have hpost (hc : t.clip = .post) : t.voxel = ⟨⟨2, 0⟩, none⟩ := by
    rw [hvoxel, hc] at hair ⊢
    exact Clip.eq_of_post hair
  cases hs : t.slot with
  | plot =>
    rw [hs] at hpass
    cases hpass
  | straight | turned =>
    rw [hs] at hclip
    rw [hpost (Option.some.inj hclip).symm]
    rfl
  | crossing =>
    rw [hs] at hclip
    cases hclip

/-- Where a plot template wraps around the cell and meets the road, the road's voxel stays. -/
theorem last_pass_wins_of_walled : ∃ o notices,
    (Overlay.build .blank .small .default .walled).exec = (.ok o, notices) ∧
      (∃ t : Site, t.Placed .walled .small ∧ t.Targets ⟨.small, .default, o.anchors⟩ 0 1 1 ∧
        t.slot = .plot) ∧
      o.cell? 0 1 1 = some ⟨⟨2, 0⟩, none⟩ := by
  obtain ⟨o, notices, hexec, hanchors, -, hcells, -⟩ :=
    last_pass_wins (by decide) (by decide) Overlay.walled_runs
  rw [Fragments.walled_anchors, Except.ok.injEq] at hanchors
  have hheight := Overlay.columnSize?_of_build hexec (Cell.key 3 0 1)
  rw [← hanchors, Overlay.size_of_build hexec] at hheight
  obtain ⟨column, hcolumn, hcount⟩ :=
    Option.map_eq_some_iff.mp (hheight.trans Fragments.walled_heightAt)
  have hreach : ∃ column, o.column? 0 1 = some column ∧ (1 : Int) < column.size := by
    refine ⟨column, ?_, by omega⟩
    rw [Overlay.column?, Overlay.size_of_build hexec]
    exact hcolumn
  rw [← hanchors] at hcells
  refine ⟨o, notices, hexec, hanchors ▸ ⟨⟨.plot, .wall, 2, 0, 1, ⟨⟨1, 0⟩, none⟩⟩, ?_, ?_, rfl⟩, ?_⟩
  · exact ⟨⟨rfl, by decide +kernel, by decide +kernel⟩, fun h => absurd rfl h⟩
  · exact ⟨⟨by decide, by decide⟩, by decide⟩
  · -- the road's own voxel goes there in a later pass
    have hroad : Site.Placed .walled .small ⟨.straight, .post, 0, 0, 0, ⟨⟨2, 0⟩, none⟩⟩ :=
      ⟨⟨rfl, by decide +kernel, by decide +kernel⟩, fun _ => by decide⟩
    obtain ⟨t, ht, -, hpass, hcell⟩ :=
      hcells 0 1 1 _ hroad ⟨⟨by decide, by decide⟩, by decide⟩ hreach
    rw [hcell, Site.shown_of_walled ht hpass]

end PlotGrid
