import Mathlib.Data.List.Nodup
import PlotGrid.Proofs.Overlay.Fitting

/-!
# Dropped voxels

Each fragment is placed in a *pass* of its own, and asks for columns of one height that has room for
all its voxels. So a pass never drops a voxel from a column that it made, and what is dropped is
what is too high for the column of an earlier pass. A build reports each index at which something
was dropped once.

- `Draft.drops?`, `Draft.lost`: the index of a voxel that is dropped, and all of them in a run.
- `Draft.Recorded`, `Draft.Recorded.foldl`: the record of drops, and what a run leaves in it.
- `Overlay.Filled`: every column holds a voxel; `Draft.filled_foldl` says that runs keep this.
- `Fragments.Turn`: the moment of a placement in a build.
- `Fragments.FirstToReach`: the pass that makes a column.
- `dropped_voxels_are_too_high`: what a build drops, and what it reports.
-/

namespace PlotGrid

/-- An entry of nested lists splits the outer list and one of the inner ones. -/
theorem exists_split_of_flatMap_eq {α β : Type} {l : List α} {f : α → List β}
    {past future : List β} {b : β} (h : l.flatMap f = past ++ b :: future) :
    ∃ earlier a later before after, l = earlier ++ a :: later ∧ f a = before ++ b :: after ∧
      past = earlier.flatMap f ++ before := by
  induction l generalizing past with
  | nil => simp at h
  | cons a rest ih =>
    rw [List.flatMap_cons] at h
    -- the entry comes after the first inner list or is in it
    have hcases : (∃ past', past = f a ++ past' ∧ rest.flatMap f = past' ++ b :: future) ∨
        ∃ after, f a = past ++ b :: after := by
      rcases List.append_eq_append_iff.mp h with ⟨past', hpast, hrest⟩ | ⟨front, ha, hfront⟩
      · exact .inl ⟨past', hpast, hrest⟩
      · cases front with
        | nil => exact .inl ⟨[], by rw [ha, List.append_nil, List.append_nil], hfront.symm⟩
        | cons b' after =>
          obtain ⟨rfl, -⟩ := List.cons.inj hfront
          exact .inr ⟨after, ha⟩
    rcases hcases with ⟨past', rfl, hrest⟩ | ⟨after, ha⟩
    · obtain ⟨earlier, a', later, before, after, rfl, ha', rfl⟩ := ih hrest
      exact ⟨a :: earlier, a', later, before, after, rfl, ha', by
        rw [List.flatMap_cons, List.append_assoc]⟩
    · exact ⟨[], a, rest, past, after, rfl, ha, rfl⟩

/-! ## What a placement drops -/

namespace Placement

/-- A placement that asks for columns of a height that has room for it. -/
def Within (height : Nat) : Placement → Prop
  | .voxel _ y _ _ _ asked => asked = height ∧ 0 ≤ y ∧ y < height
  | .biome _ _ _ => True

theorem heightAt?_of_spot? {size : Int} {key height : Nat} {y : Int} {p : Placement}
    (hp : p.Within height) (hspot : p.spot? size = some (key, y)) :
    p.heightAt? size key = some height ∧ 0 ≤ y ∧ y < height := by
  cases p with
  | biome x z tag => cases hspot
  | voxel x y' z v isTurned asked =>
    obtain ⟨rfl, hy⟩ := hp
    obtain ⟨rfl, rfl⟩ := Prod.mk.inj (Option.some.inj hspot)
    exact ⟨if_pos rfl, hy⟩

theorem heightAt?_ne_none_of_spot? {size : Int} {key : Nat} {y : Int} {p : Placement}
    (hspot : p.spot? size = some (key, y)) : p.heightAt? size key ≠ none := by
  cases p with
  | biome x z tag => cases hspot
  | voxel x y' z v isTurned asked =>
    obtain ⟨rfl, rfl⟩ := Prod.mk.inj (Option.some.inj hspot)
    rw [heightAt?, if_pos rfl]
    exact Option.some_ne_none asked

theorem Within.eq_of_heightAt? {size : Int} {key height n : Nat} {p : Placement}
    (hp : p.Within height) (hn : p.heightAt? size key = some n) : n = height := by
  cases p with
  | biome x z tag => cases hn
  | voxel x y z v isTurned asked =>
    obtain ⟨rfl, -⟩ := hp
    simp only [heightAt?] at hn
    split at hn
    · exact (Option.some.inj hn).symm
    · cases hn

theorem exists_spot?_of_heightAt? {size : Int} {key n : Nat} {p : Placement}
    (hn : p.heightAt? size key = some n) : ∃ y, p.spot? size = some (key, y) := by
  cases p with
  | biome x z tag => cases hn
  | voxel x y z v isTurned asked =>
    simp only [heightAt?] at hn
    split at hn
    · rename_i hkey
      exact ⟨y, by rw [spot?, hkey]⟩
    · cases hn

theorem isSome_shown?_of_spot? {reg : Registry} {size : Int} {cell : Nat × Int} {p : Placement}
    (hspot : p.spot? size = some cell) : (p.shown? reg).isSome := by
  cases p with
  | biome x z tag => cases hspot
  | voxel x y z v isTurned asked => rfl

end Placement

namespace Draft

variable {reg : Registry} {d : Draft} {p : Placement} {key : Nat} {y : Int}

/-- The index of a voxel that does not fit into its column. -/
def drops? (d : Draft) : Placement → Option Int
  | .voxel x y z _ _ height =>
    if 0 ≤ y ∧ y < columnHeight d.overlay (Cell.key d.overlay.size x z) height then none else some y
  | .biome _ _ _ => none

/-- The indices of the voxels that a run drops, one for each voxel. -/
def lost (reg : Registry) (d : Draft) : List Placement → List Int
  | [] => []
  | p :: rest => (d.drops? p).toList ++ lost reg (d.place reg p) rest

/-- The record of a draft has the indices of a list, each of them once. -/
structure Recorded (d : Draft) (indices : List Int) : Prop where
  once : (d.dropped.map Prod.fst).Nodup
  mem_iff : ∀ y, y ∈ d.dropped.map Prod.fst ↔ y ∈ indices

theorem exists_spot?_of_drops (h : d.drops? p = some y) :
    ∃ key, p.spot? d.overlay.size = some (key, y) := by
  cases p with
  | biome x z tag => cases h
  | voxel x y' z v isTurned height =>
    rw [drops?] at h
    split at h
    · cases h
    · exact ⟨_, by rw [Placement.spot?, Option.some.inj h]⟩

/-- A voxel that was dropped leaves the overlay as it was, if its column is there. -/
theorem overlay_place_of_drops {n : Nat} (hspot : p.spot? d.overlay.size = some (key, y))
    (hn : d.overlay.columnSize? key = some n) (hy : n ≤ y) :
    (∀ k : Nat, (d.place reg p).overlay.columns[k]? = d.overlay.columns[k]?) ∧
      (d.place reg p).overlay.biomes = d.overlay.biomes := by
  cases p with
  | biome x z tag => cases hspot
  | voxel x y' z v isTurned height =>
    obtain ⟨rfl, rfl⟩ := Prod.mk.inj (Option.some.inj hspot)
    refine ⟨fun k => ?_, rfl⟩
    simp only [place, getElem?_putVoxel]
    split
    · rename_i hk
      subst hk
      obtain ⟨column, hcolumn, rfl⟩ := Option.map_eq_some_iff.mp hn
      rw [hcolumn, columnAfter, Option.getD_some, if_pos (by omega),
        Array.setIfInBounds_eq_of_size_le (by omega)]
    · rfl

/-- A voxel that is not dropped is found in its cell. -/
theorem held?_place_of_fits (hspot : p.spot? d.overlay.size = some (key, y))
    (hfits : d.drops? p = none) :
    (d.place reg p).overlay.held? key y.toNat = p.shown? reg := by
  cases p with
  | biome x z tag => cases hspot
  | voxel x y' z v isTurned height =>
    obtain ⟨rfl, rfl⟩ := Prod.mk.inj (Option.some.inj hspot)
    have hy : 0 ≤ y' ∧ y' < columnHeight d.overlay (Cell.key d.overlay.size x z) height := by
      refine Classical.byContradiction fun hnot => ?_
      rw [drops?, if_neg hnot] at hfits
      cases hfits
    have hsize : (d.place reg (.voxel x y' z v isTurned height)).overlay.columnSize?
        (Cell.key d.overlay.size x z) =
          some (columnHeight d.overlay (Cell.key d.overlay.size x z) height) := by
      rw [columnSize?_place, Placement.heightAt?, if_pos rfl]
      show (d.overlay.columnSize? _).or (some height) =
        some ((d.overlay.columnSize? _).getD height)
      cases d.overlay.columnSize? (Cell.key d.overlay.size x z) <;> rfl
    rw [held?_place hsize (by omega), Placement.voxelAt?, Int.toNat_of_nonneg hy.1, if_pos hspot]
    rfl

/-! ## The record of dropped voxels -/

theorem mem_drop_iff {dropped : List (Int × Nat)} {height : Nat} {y' : Int} :
    y' ∈ (drop dropped y height).map Prod.fst ↔ y' ∈ dropped.map Prod.fst ∨ y' = y := by
  unfold drop
  split
  · rename_i hany
    obtain ⟨e, he, heq⟩ := List.any_eq_true.mp hany
    have hy : y ∈ dropped.map Prod.fst := List.mem_map.mpr ⟨e, he, eq_of_beq heq⟩
    constructor
    · exact .inl
    · rintro (h | rfl)
      · exact h
      · exact hy
  · rw [List.map_cons, List.mem_cons, or_comm]

theorem nodup_drop {dropped : List (Int × Nat)} {height : Nat}
    (h : (dropped.map Prod.fst).Nodup) : ((drop dropped y height).map Prod.fst).Nodup := by
  unfold drop
  split
  · exact h
  · rename_i hany
    refine List.nodup_cons.mpr ⟨fun hy => hany ?_, h⟩
    obtain ⟨e, he, heq⟩ := List.mem_map.mp hy
    exact List.any_eq_true.mpr ⟨e, he, beq_iff_eq.mpr heq⟩

/-- One placement adds its index to the record if it is dropped, and if the record does not have
it. -/
theorem Recorded.place {indices : List Int} (h : d.Recorded indices) (p : Placement) :
    (d.place reg p).Recorded (indices ++ (d.drops? p).toList) := by
  obtain ⟨honce, hmem⟩ := h
  cases p with
  | biome x z tag =>
    refine ⟨honce, fun y => ?_⟩
    rw [drops?, Option.toList_none, List.append_nil]
    exact hmem y
  | voxel x y z v isTurned height =>
    have hdropped : (d.place reg (.voxel x y z v isTurned height)).dropped =
        if 0 ≤ y ∧ y < columnHeight d.overlay (Cell.key d.overlay.size x z) height then d.dropped
        else drop d.dropped y (columnHeight d.overlay (Cell.key d.overlay.size x z) height) := rfl
    rw [drops?]
    split
    · rename_i hfits
      rw [if_pos hfits] at hdropped
      refine ⟨hdropped ▸ honce, fun y' => ?_⟩
      rw [hdropped, Option.toList_none, List.append_nil]
      exact hmem y'
    · rename_i hfits
      rw [if_neg hfits] at hdropped
      refine ⟨hdropped ▸ nodup_drop honce, fun y' => ?_⟩
      rw [hdropped, mem_drop_iff, hmem, List.mem_append, Option.toList_some, List.mem_singleton]

/-- **The record of a run has the indices of all voxels that it drops**, each of them once. -/
theorem Recorded.foldl {indices : List Int} (h : d.Recorded indices) (reg : Registry)
    (ps : List Placement) :
    (ps.foldl (Draft.place reg) d).Recorded (indices ++ lost reg d ps) := by
  induction ps generalizing d indices with
  | nil =>
    rw [lost, List.append_nil]
    exact h
  | cons p rest ih =>
    rw [lost, ← List.append_assoc]
    exact ih (h.place p)

/-! ## Passes -/

/-- Within a pass a voxel is dropped iff the column was there before the pass and is too low. -/
theorem drops?_eq_some_iff (reg : Registry) {before : List Placement} {height : Nat}
    (hbefore : ∀ q ∈ before, q.Within height) (hp : p.Within height)
    (hspot : p.spot? d.overlay.size = some (key, y)) :
    (before.foldl (place reg) d).drops? p = some y ↔
      ∃ n, d.overlay.columnSize? key = some n ∧ n ≤ y := by
  obtain ⟨-, hy⟩ := Placement.heightAt?_of_spot? hp hspot
  cases p with
  | biome x z tag => cases hspot
  | voxel x y' z v isTurned asked =>
    obtain ⟨rfl, -⟩ := hp
    obtain ⟨rfl, rfl⟩ := Prod.mk.inj (Option.some.inj hspot)
    have hheight : columnHeight (before.foldl (place reg) d).overlay
        (Cell.key d.overlay.size x z) asked =
          (d.overlay.columnSize? (Cell.key d.overlay.size x z)).getD asked := by
      show ((before.foldl (place reg) d).overlay.columnSize? _).getD asked = _
      rw [columnSize?_foldl]
      -- whatever the pass has made so far is of the height that the voxel asks for
      cases hfound : before.findSome? (Placement.heightAt? d.overlay.size _) with
      | none => rw [Option.or_none]
      | some n =>
        obtain ⟨q, hq, hn⟩ := List.exists_of_findSome?_eq_some hfound
        rw [(hbefore q hq).eq_of_heightAt? hn]
        cases d.overlay.columnSize? (Cell.key d.overlay.size x z) <;> rfl
    rw [drops?, size_foldl, hheight]
    cases hn : d.overlay.columnSize? (Cell.key d.overlay.size x z) with
    | none =>
      -- the pass itself makes the column, with room for the voxel
      rw [Option.getD_none, if_pos hy]
      simp
    | some n =>
      rw [Option.getD_some]
      by_cases hlt : y' < n
      · rw [if_pos ⟨hy.1, hlt⟩]
        simp [hlt]
      · rw [if_neg fun h => hlt h.2]
        simp
        omega

/-- Every index that is lost was dropped at some moment of the run. -/
theorem mem_lost_iff {ps : List Placement} :
    y ∈ lost reg d ps ↔ ∃ past p future, ps = past ++ p :: future ∧
      (past.foldl (place reg) d).drops? p = some y := by
  induction ps generalizing d with
  | nil => simp [lost]
  | cons q rest ih =>
    rw [lost, List.mem_append, Option.mem_toList, ih]
    constructor
    · rintro (hq | ⟨past, p, future, rfl, hp⟩)
      · exact ⟨[], q, rest, rfl, hq⟩
      · exact ⟨q :: past, p, future, rfl, hp⟩
    · rintro ⟨past, p, future, heq, hp⟩
      cases past with
      | nil =>
        obtain ⟨rfl, rfl⟩ := List.cons.inj heq
        exact .inl hp
      | cons q' past =>
        obtain ⟨rfl, rfl⟩ := List.cons.inj heq
        exact .inr ⟨past, p, future, rfl, hp⟩

end Draft

/-! ## Columns hold voxels -/

theorem OverlayColumn.voxels_ne_nil {column : OverlayColumn} {i : Nat}
    (h : (column[i]?.join).isSome) : column.voxels ≠ [] := by
  obtain ⟨v, hv⟩ := Option.isSome_iff_exists.mp h
  have hentry : column.toList[i]? = some (some v) := by
    rw [Array.getElem?_toList]
    exact Option.join_eq_some_iff.mp hv
  exact List.ne_nil_of_mem (List.mem_filterMap.mpr ⟨_, List.mem_of_getElem? hentry, rfl⟩)

/-- Every column of an overlay holds a voxel. -/
def Overlay.Filled (o : Overlay) : Prop :=
  ∀ key n, o.columnSize? key = some n → ∃ i < n, (o.held? key i).isSome

namespace Draft

variable {reg : Registry} {d : Draft} {p : Placement}

/-- A column is made together with its first voxel, and no voxel is ever taken away. -/
theorem filled_place {height : Nat} (h : d.overlay.Filled) (hp : p.Within height) :
    (d.place reg p).overlay.Filled := by
  intro key n hn
  have hsize := hn
  rw [columnSize?_place] at hsize
  cases hold : d.overlay.columnSize? key with
  | some m =>
    rw [hold, Option.some_or, Option.some.injEq] at hsize
    subst hsize
    obtain ⟨i, hi, hheld⟩ := h key m hold
    refine ⟨i, hi, ?_⟩
    rw [held?_place hn hi, Option.isSome_or, hheld, Bool.or_true]
  | none =>
    rw [hold, Option.none_or] at hsize
    obtain ⟨y, hspot⟩ := Placement.exists_spot?_of_heightAt? hsize
    obtain ⟨hheight, hy⟩ := Placement.heightAt?_of_spot? hp hspot
    have hfits : d.drops? p = none := by
      refine Option.eq_none_iff_forall_ne_some.mpr fun y' hdrops => ?_
      obtain ⟨key', hspot'⟩ := exists_spot?_of_drops hdrops
      obtain ⟨rfl, rfl⟩ := Prod.mk.inj (Option.some.inj (hspot.symm.trans hspot'))
      obtain ⟨m, hm, -⟩ := (drops?_eq_some_iff reg (List.forall_mem_nil _) hp hspot).mp hdrops
      rw [hold] at hm
      cases hm
    rw [hsize, Option.some.injEq] at hheight
    refine ⟨y.toNat, by omega, ?_⟩
    rw [held?_place_of_fits hspot hfits]
    exact Placement.isSome_shown?_of_spot? hspot

theorem filled_foldl {ps : List Placement} (h : d.overlay.Filled)
    (hps : ∀ p ∈ ps, ∃ height, p.Within height) : (ps.foldl (place reg) d).overlay.Filled := by
  induction ps generalizing d with
  | nil => exact h
  | cons p rest ih =>
    obtain ⟨height, hp⟩ := hps p List.mem_cons_self
    exact ih (filled_place h hp) fun q hq => hps q (List.mem_cons_of_mem p hq)

end Draft

/-! ## The passes of a build -/

/-- The pass of one fragment. -/
def Draft.pass (reg : Registry) (plan : Plan) (d : Draft) (filling : Clip × List Slot) : Draft :=
  (filling.1.course plan filling.2).foldl (place reg) d

theorem Draft.size_foldl_pass (reg : Registry) (plan : Plan) (fillings : List (Clip × List Slot))
    (d : Draft) : (fillings.foldl (pass reg plan) d).overlay.size = d.overlay.size := by
  induction fillings generalizing d with
  | nil => rfl
  | cons filling rest ih => rw [List.foldl_cons, ih, pass, size_foldl]

namespace Fragments

variable {f : Fragments} {g : Geometry} {plan : Plan}

/-- The slots of a fragment make columns of one height. -/
theorem exists_columnHeight {filling : Clip × List Slot} (hfill : filling ∈ f.fillings g)
    (plan : Plan) : ∃ height, ∀ s ∈ filling.2, s.columnHeight plan filling.1 = height := by
  have slots_of_mem {c? : Option Clip} {slots : List Slot}
      (h : filling ∈ (c?.map fun c => (c, slots)).toList) : filling.2 = slots := by
    obtain ⟨c, -, rfl⟩ := Option.map_eq_some_iff.mp (Option.mem_toList.mp h)
    rfl
  rcases List.mem_append.mp hfill with hplot | hroads
  · refine ⟨Slot.columnHeight plan filling.1 .plot, fun s hs => ?_⟩
    rw [slots_of_mem hplot] at hs
    rw [List.mem_singleton.mp hs]
  · refine ⟨Slot.columnHeight plan filling.1 .crossing, fun s hs => ?_⟩
    -- road fragments start at one height, whichever slot they are in
    have hs : s ≠ .plot := by
      rintro rfl
      split at hroads
      · rcases List.mem_append.mp hroads with harms | hcrossing
        · rw [slots_of_mem harms] at hs
          exact absurd hs (by decide)
        · rw [slots_of_mem hcrossing] at hs
          exact absurd hs (by decide)
      · cases hroads
    cases s with
    | plot => exact absurd rfl hs
    | straight | turned | crossing => rfl

/-- The placements of a pass ask for columns of one height, which has room for all of them. -/
theorem within_filling (ha : f.anchors plan.geometry plan.settings = .ok plan.anchors)
    {filling : Clip × List Slot} (hfill : filling ∈ f.fillings plan.geometry) :
    ∃ height : Nat, (∀ s ∈ filling.2, (s.columnHeight plan filling.1).toNat = height) ∧
      ∀ p ∈ filling.1.course plan filling.2, p.Within height := by
  obtain ⟨height, hheight⟩ := exists_columnHeight hfill plan
  refine ⟨height.toNat, fun s hs => by rw [hheight s hs], fun p hp => ?_⟩
  rcases Clip.of_mem_course hp with ⟨s, hs, x, z, cell, hcell, rfl⟩ | ⟨x, z, tag, rfl⟩
  · have hclip := (exists_filling_iff.mp ⟨filling.2, hfill, hs⟩).1
    have hbase := Slot.base_nonneg ha hclip
    have hy := (Clip.mem_solids_iff.mp hcell).1
    have hlt := Slot.base_add_lt plan filling.1 s (y := cell.1) (by omega)
    rw [hheight s hs] at hlt
    refine ⟨by rw [hheight s hs], ?_, ?_⟩
    · omega
    · omega
  · trivial

/-- The turn of a placement in a build: the passes before its own, and the placements of its own
pass before it. -/
structure Turn (f : Fragments) (plan : Plan) where
  earlier : List (Clip × List Slot)
  filling : Clip × List Slot
  later : List (Clip × List Slot)
  before : List Placement
  placement : Placement
  after : List Placement
  fillings_eq : f.fillings plan.geometry = earlier ++ filling :: later
  course_eq : filling.1.course plan filling.2 = before ++ placement :: after

namespace Turn

/-- The draft at the start of the pass. -/
def start (t : f.Turn plan) (reg : Registry) (blank : Overlay) : Draft :=
  t.earlier.foldl (Draft.pass reg plan) ⟨blank, []⟩

/-- The draft at the turn. -/
def now (t : f.Turn plan) (reg : Registry) (blank : Overlay) : Draft :=
  t.before.foldl (Draft.place reg) (t.start reg blank)

/-- All placements before the turn. -/
def past (t : f.Turn plan) : List Placement :=
  (t.earlier.flatMap fun filling => filling.1.course plan filling.2) ++ t.before

variable {reg : Registry} {blank : Overlay} (t : f.Turn plan)

theorem mem_fillings : t.filling ∈ f.fillings plan.geometry := by
  rw [t.fillings_eq]
  exact List.mem_append_right _ List.mem_cons_self

/-- A turn is a moment of the build. -/
theorem exists_course_eq : ∃ future, f.course plan = t.past ++ t.placement :: future := by
  refine ⟨t.after ++ t.later.flatMap fun filling => filling.1.course plan filling.2, ?_⟩
  rw [course, t.fillings_eq, List.flatMap_append, List.flatMap_cons, t.course_eq, past]
  simp only [List.append_assoc, List.cons_append]

theorem now_eq : t.now reg blank = t.past.foldl (Draft.place reg) ⟨blank, []⟩ := by
  rw [past, List.foldl_append, List.foldl_flatMap]
  rfl

end Turn

/-- Every moment of the build is a turn. -/
theorem exists_turn {past future : List Placement} {p : Placement}
    (h : f.course plan = past ++ p :: future) :
    ∃ t : f.Turn plan, t.placement = p ∧ t.past = past := by
  obtain ⟨earlier, filling, later, before, after, hfillings, hcourse, hpast⟩ :=
    exists_split_of_flatMap_eq h
  exact ⟨⟨earlier, filling, later, before, p, after, hfillings, hcourse⟩, rfl, hpast.symm⟩

/-- A pass comes to a column with a voxel. -/
def Reaches (plan : Plan) (size : Int) (key : Nat) (filling : Clip × List Slot) : Prop :=
  ∃ p ∈ filling.1.course plan filling.2, ∃ y, p.spot? size = some (key, y)

/-- The first pass that comes to a column. -/
def FirstToReach (f : Fragments) (plan : Plan) (size : Int) (key : Nat)
    (filling : Clip × List Slot) : Prop :=
  ∃ earlier later, f.fillings plan.geometry = earlier ++ filling :: later ∧
    (∀ other ∈ earlier, ¬ Reaches plan size key other) ∧ Reaches plan size key filling

/-- **A column is as high as the first pass that comes to it makes it.** -/
theorem firstToReach_of_heightAt? (ha : f.anchors plan.geometry plan.settings = .ok plan.anchors)
    {size : Int} {key n : Nat}
    (hn : (f.course plan).findSome? (Placement.heightAt? size key) = some n) :
    ∃ filling, f.FirstToReach plan size key filling ∧
      ∀ s ∈ filling.2, n = (s.columnHeight plan filling.1).toNat := by
  obtain ⟨past, p, future, hcourse, hheight, hnone⟩ := List.findSome?_eq_some_iff.mp hn
  obtain ⟨t, rfl, rfl⟩ := exists_turn hcourse
  have hplacement : t.placement ∈ t.filling.1.course plan t.filling.2 := by
    rw [t.course_eq]
    exact List.mem_append_right _ List.mem_cons_self
  refine ⟨t.filling, ⟨t.earlier, t.later, t.fillings_eq, ?_, t.placement, hplacement,
    Placement.exists_spot?_of_heightAt? hheight⟩, ?_⟩
  · rintro other hother ⟨q, hq, y, hspot⟩
    -- what comes to the column asks for a height, and nothing before the turn does
    have hasks : q.heightAt? size key ≠ Option.none := Placement.heightAt?_ne_none_of_spot? hspot
    refine hasks (hnone q (List.mem_append_left _ ?_))
    exact List.mem_flatMap.mpr ⟨other, hother, hq⟩
  · obtain ⟨height, hslots, hwithin⟩ := within_filling ha t.mem_fillings
    intro s hs
    rw [hslots s hs]
    exact (hwithin t.placement hplacement).eq_of_heightAt? hheight

/-- The fragments of a set that are present. -/
def clips (f : Fragments) : List Clip :=
  f.plot.toList ++ f.sideroad.toList ++ f.intersection.toList

theorem length_fillings_le (f : Fragments) (g : Geometry) :
    (f.fillings g).length ≤ f.clips.length := by
  have hmap (c? : Option Clip) (slots : List Slot) :
      (c?.map fun c => (c, slots)).toList.length = c?.toList.length := by
    cases c? <;> rfl
  unfold fillings clips
  split
  · simp only [List.length_append, hmap]
    omega
  · simp only [List.length_append, hmap, List.length_nil]
    omega

end Fragments

/-! ## Builds -/

namespace Fragments.Turn

variable {f : Fragments} {plan : Plan} {reg : Registry} {blank : Overlay} (t : f.Turn plan)
  {key : Nat} {y : Int}

theorem size_start : (t.start reg blank).overlay.size = blank.size :=
  Draft.size_foldl_pass reg plan t.earlier ⟨blank, []⟩

theorem size_now : (t.now reg blank).overlay.size = blank.size := by
  rw [now, Draft.size_foldl, size_start]

theorem within (ha : f.anchors plan.geometry plan.settings = .ok plan.anchors) :
    ∃ height, (∀ q ∈ t.before, q.Within height) ∧ t.placement.Within height := by
  obtain ⟨height, -, hwithin⟩ := within_filling ha t.mem_fillings
  rw [t.course_eq] at hwithin
  exact ⟨height, fun q hq => hwithin q (List.mem_append_left _ hq),
    hwithin _ (List.mem_append_right _ List.mem_cons_self)⟩

/-- **A voxel is dropped iff an earlier pass has made its column, and too low for it.** -/
theorem drops?_eq_some_iff (ha : f.anchors plan.geometry plan.settings = .ok plan.anchors)
    (hspot : t.placement.spot? blank.size = some (key, y)) :
    (t.now reg blank).drops? t.placement = some y ↔
      ∃ n, (t.start reg blank).overlay.columnSize? key = some n ∧ n ≤ y := by
  obtain ⟨height, hbefore, hplacement⟩ := t.within ha
  refine Draft.drops?_eq_some_iff reg hbefore hplacement ?_
  rw [t.size_start]
  exact hspot

/-- What is dropped leaves all columns and biomes as they are; what is not dropped is found in its
cell. -/
theorem overlay_place (ha : f.anchors plan.geometry plan.settings = .ok plan.anchors)
    (hspot : t.placement.spot? blank.size = some (key, y)) :
    ((t.now reg blank).drops? t.placement = some y →
        (∀ k : Nat, ((t.now reg blank).place reg t.placement).overlay.columns[k]? =
          (t.now reg blank).overlay.columns[k]?) ∧
        ((t.now reg blank).place reg t.placement).overlay.biomes =
          (t.now reg blank).overlay.biomes) ∧
      ((t.now reg blank).drops? t.placement = Option.none →
        ((t.now reg blank).place reg t.placement).overlay.held? key y.toNat =
          t.placement.shown? reg) := by
  have hnow : t.placement.spot? (t.now reg blank).overlay.size = some (key, y) := by
    rw [t.size_now]
    exact hspot
  refine ⟨fun hdrops => ?_, Draft.held?_place_of_fits hnow⟩
  obtain ⟨n, hn, hy⟩ := (t.drops?_eq_some_iff ha hspot).mp hdrops
  refine Draft.overlay_place_of_drops hnow (n := n) ?_ hy
  -- the column is still there when the turn comes
  rw [now, Draft.columnSize?_foldl, hn, Option.some_or]

/-- A single fragment has a single pass, which finds no columns. -/
theorem drops?_eq_none_of_single
    (ha : f.anchors plan.geometry plan.settings = .ok plan.anchors) (hblank : Blank plan blank)
    (h : f.clips.length ≤ 1) : (t.now reg blank).drops? t.placement = Option.none := by
  have hearlier : t.earlier = [] := by
    have hcount := f.length_fillings_le plan.geometry
    rw [t.fillings_eq, List.length_append, List.length_cons] at hcount
    exact List.eq_nil_of_length_eq_zero (by omega)
  cases hdrops : (t.now reg blank).drops? t.placement with
  | none => rfl
  | some y =>
    obtain ⟨key, hspot⟩ := Draft.exists_spot?_of_drops hdrops
    rw [t.size_now] at hspot
    obtain ⟨n, hn, -⟩ := (t.drops?_eq_some_iff ha hspot).mp hdrops
    rw [start, hearlier, List.foldl_nil, hblank.columnSize?_eq] at hn
    cases hn

end Fragments.Turn

namespace Overlay

variable {reg : Registry} {g : Geometry} {s : SchematicSettings} {f : Fragments} {o : Overlay}
  {notices : Array Notice}

/-- A column of an overlay holds a voxel and is as high as the first pass that comes to it makes
it. -/
theorem column_of_build (h : (build reg g s f).exec = (.ok o, notices)) {key : Nat}
    {column : OverlayColumn} (hcolumn : o.columns[key]? = some column) :
    column.voxels ≠ [] ∧
      ∃ filling, f.FirstToReach ⟨g, s, o.anchors⟩ (g.plotWidth + g.roadWidth) key filling ∧
        ∀ slot ∈ filling.2,
          column.size = (slot.columnHeight ⟨g, s, o.anchors⟩ filling.1).toNat := by
  obtain ⟨blank, hstart, -, d, hd, -, rfl, -⟩ := build_eq_ok h
  obtain ⟨hanchors, hcell, -, hcolumns, -⟩ := start_eq_ok hstart
  have hblank : Fragments.Blank ⟨g, s, blank.anchors⟩ blank :=
    ⟨(Coord.add_eq_ok_iff.mp hcell).2, hcolumns⟩
  have hsize : d.overlay.columnSize? key = some column.size := by
    rw [columnSize?, hcolumn]
    rfl
  have hfilled : d.overlay.Filled := by
    rw [hd]
    refine Draft.filled_foldl (fun key n hn => ?_) fun p hp => ?_
    · rw [hblank.columnSize?_eq] at hn
      cases hn
    · obtain ⟨filling, hfill, hp⟩ := List.mem_flatMap.mp hp
      obtain ⟨height, -, hwithin⟩ := Fragments.within_filling hanchors hfill
      exact ⟨height, hwithin p hp⟩
  have hfinal : d.overlay.anchors = blank.anchors := by
    rw [hd, Draft.anchors_foldl]
  constructor
  · obtain ⟨i, -, hheld⟩ := hfilled key column.size hsize
    rw [held?, hcolumn, Option.bind_some] at hheld
    exact OverlayColumn.voxels_ne_nil hheld
  · rw [hd, Draft.columnSize?_foldl, hblank.columnSize?_eq, Option.none_or, hblank.size] at hsize
    rw [hfinal]
    exact Fragments.firstToReach_of_heightAt? hanchors hsize

/-- **A build reports every index at which a voxel is dropped**, each of them once. -/
theorem notices_of_build (h : (build reg g s f).exec = (.ok o, notices)) {blank : Overlay}
    (hstart : start g s f = .ok blank) :
    ∃ reports : List (Int × Nat),
      notices = (reports.map fun r => ⟨.error, Draft.dropNotice r.1 r.2⟩).toArray ∧
      (reports.map Prod.fst).Nodup ∧
      ∀ y, y ∈ reports.map Prod.fst ↔
        ∃ t : f.Turn ⟨g, s, blank.anchors⟩, (t.now reg blank).drops? t.placement = some y := by
  obtain ⟨blank', hstart', -, d, hd, -, -, hnotices⟩ := build_eq_ok h
  rw [hstart, Except.ok.injEq] at hstart'
  subst hstart'
  have hrecord : Draft.Recorded ⟨blank, []⟩ [] := ⟨List.nodup_nil, fun y => Iff.rfl⟩
  obtain ⟨honce, hmem⟩ := hrecord.foldl reg (f.course ⟨g, s, blank.anchors⟩)
  rw [← hd] at honce hmem
  refine ⟨d.dropped.reverse, hnotices, ?_, fun y => ?_⟩
  · rw [List.map_reverse]
    exact List.nodup_reverse.mpr honce
  · rw [List.map_reverse, List.mem_reverse, hmem, List.nil_append, Draft.mem_lost_iff]
    constructor
    · rintro ⟨past, p, future, hcourse, hp⟩
      obtain ⟨t, rfl, rfl⟩ := Fragments.exists_turn hcourse
      exact ⟨t, by rw [t.now_eq, hp]⟩
    · rintro ⟨t, ht⟩
      obtain ⟨future, hcourse⟩ := t.exists_course_eq
      exact ⟨t.past, t.placement, future, hcourse, by rw [← t.now_eq, ht]⟩

end Overlay

/-- **What is dropped is too high for the column of an earlier pass.** A build that does not
overflow carries out the passes of its fragments. Every column holds a voxel and is as high as the
first pass that comes to it makes it. A voxel is dropped iff an earlier pass has made its column
and too low for it, and then nothing changes; otherwise it is found in its cell. The build reports
the indices of dropped voxels, each of them once, and nothing for a single fragment. -/
theorem dropped_voxels_are_too_high {reg : Registry} {g : Geometry} {s : SchematicSettings}
    {f : Fragments} (hpos : 1 ≤ g.plotWidth + g.roadWidth)
    (hrun : (Overlay.build reg g s f).exec.1 ≠ .error .overflow) :
    ∃ o notices blank, (Overlay.build reg g s f).exec = (.ok o, notices) ∧
      Overlay.start g s f = .ok blank ∧
      f.placements g s blank.anchors = (f.course ⟨g, s, blank.anchors⟩).map .ok ∧
      (∀ (key : Nat) column, o.columns[key]? = some column → column.voxels ≠ [] ∧
        ∃ filling, f.FirstToReach ⟨g, s, o.anchors⟩ (g.plotWidth + g.roadWidth) key filling ∧
          ∀ slot ∈ filling.2,
            column.size = (slot.columnHeight ⟨g, s, o.anchors⟩ filling.1).toNat) ∧
      (∀ (t : f.Turn ⟨g, s, blank.anchors⟩) key y,
        t.placement.spot? (g.plotWidth + g.roadWidth) = some (key, y) →
        ((t.now reg blank).drops? t.placement = some y ↔
          ∃ n, (t.start reg blank).overlay.columnSize? key = some n ∧ n ≤ y) ∧
        ((t.now reg blank).drops? t.placement = some y →
          (∀ k : Nat, ((t.now reg blank).place reg t.placement).overlay.columns[k]? =
            (t.now reg blank).overlay.columns[k]?) ∧
          ((t.now reg blank).place reg t.placement).overlay.biomes =
            (t.now reg blank).overlay.biomes) ∧
        ((t.now reg blank).drops? t.placement = none →
          ((t.now reg blank).place reg t.placement).overlay.held? key y.toNat =
            t.placement.shown? reg)) ∧
      (∃ reports : List (Int × Nat),
        notices = (reports.map fun r => ⟨.error, Draft.dropNotice r.1 r.2⟩).toArray ∧
        (reports.map Prod.fst).Nodup ∧
        ∀ y, y ∈ reports.map Prod.fst ↔
          ∃ t : f.Turn ⟨g, s, blank.anchors⟩, (t.now reg blank).drops? t.placement = some y) ∧
      (f.clips.length ≤ 1 → notices = #[]) := by
  obtain ⟨o, notices, hexec⟩ := Overlay.exists_build_eq_of_pos (by omega) hrun
  obtain ⟨blank, hstart, -, d, -, hall, -⟩ := Overlay.build_eq_ok hexec
  obtain ⟨hanchors, hcell, -, hcolumns, -⟩ := Overlay.start_eq_ok hstart
  have hblank : Fragments.Blank ⟨g, s, blank.anchors⟩ blank :=
    ⟨(Coord.add_eq_ok_iff.mp hcell).2, hcolumns⟩
  have hreports := Overlay.notices_of_build hexec hstart
  refine ⟨o, notices, blank, hexec, hstart,
    (Fragments.placements_eq_course ⟨g, s, blank.anchors⟩ (Draft.placeAll_eq_none hall)).1,
    fun key column hcolumn => Overlay.column_of_build hexec hcolumn, ?_, hreports, ?_⟩
  · intro t key y hspot
    rw [← hblank.size] at hspot
    exact ⟨t.drops?_eq_some_iff hanchors hspot, t.overlay_place hanchors hspot⟩
  · intro hone
    obtain ⟨reports, rfl, -, hmem⟩ := hreports
    have hnone : reports = [] := by
      refine List.eq_nil_iff_forall_not_mem.mpr fun r hr => ?_
      obtain ⟨t, ht⟩ := (hmem r.1).mp (List.mem_map_of_mem hr)
      rw [t.drops?_eq_none_of_single hanchors hblank hone] at ht
      cases ht
    rw [hnone]
    rfl

/-! ## Crowded fragments -/

/-- Three blocks in a row. -/
def Clip.row : Clip :=
  ⟨3, 1, 1, .replicate 3 ⟨⟨1, 0⟩, .none⟩, .replicate 3 .none⟩

/-- Two blocks on top of each other. -/
def Clip.post : Clip :=
  ⟨1, 2, 1, .replicate 2 ⟨⟨2, 0⟩, .none⟩, .replicate 1 .none⟩

/-- A plot template that is wider than its plot, and a road that is higher. -/
def Fragments.crowded : Fragments where
  plot := some .row
  sideroad := some .post
  intersection := .none

theorem Fragments.crowded_anchors :
    Fragments.crowded.anchors .small .default = .ok ⟨3, 0, 1⟩ := by
  decide +kernel

theorem Overlay.crowded_runs :
    (Overlay.build .blank .small .default .crowded).exec.1 ≠ .error .overflow :=
  ne_overflow_of_isOk Geometry.small_paved Fragments.crowded_anchors (by decide +kernel)

/-- The turn of the first voxel of the road, which goes to the last column of the plot template. -/
def Fragments.crowdedTurn : Fragments.crowded.Turn ⟨.small, .default, ⟨3, 0, 1⟩⟩ where
  earlier := [(.row, [.plot])]
  filling := (.post, [.straight, .turned])
  later := []
  before := []
  placement := .voxel 0 1 1 ⟨⟨2, 0⟩, .none⟩ false 3
  after := [.voxel 1 1 0 ⟨⟨2, 0⟩, .none⟩ true 3, .voxel 0 2 1 ⟨⟨2, 0⟩, .none⟩ false 3,
    .voxel 1 2 0 ⟨⟨2, 0⟩, .none⟩ true 3, .biome 0 1 .none, .biome 1 0 .none]
  fillings_eq := rfl
  course_eq := by decide +kernel

/-- The plot template comes to that column before the road, and makes it one block high. -/
theorem Clip.row_heightAt : (Clip.row.course ⟨.small, .default, ⟨3, 0, 1⟩⟩ [.plot]).findSome?
    (Placement.heightAt? 3 (Cell.key 3 0 1)) = some 1 := by
  decide +kernel

/-- Where a plot template reaches into the road, the road's voxels above it are dropped. -/
theorem dropped_voxels_of_crowded : ∃ o notices height,
    (Overlay.build .blank .small .default .crowded).exec = (.ok o, notices) ∧
      ⟨.error, Draft.dropNotice 1 height⟩ ∈ notices := by
  obtain ⟨o, notices, blank, hexec, hstart, -, -, hturns, ⟨reports, hnotices, -, hmem⟩, -⟩ :=
    dropped_voxels_are_too_high (by decide) Overlay.crowded_runs
  obtain ⟨hanchors, hcell, -, hcolumns, -⟩ := Overlay.start_eq_ok hstart
  have hblank : Fragments.Blank ⟨.small, .default, blank.anchors⟩ blank :=
    ⟨(Coord.add_eq_ok_iff.mp hcell).2, hcolumns⟩
  rw [Fragments.crowded_anchors, Except.ok.injEq] at hanchors
  rw [← hanchors] at hturns hmem
  have hcolumn : (Fragments.crowdedTurn.start .blank blank).overlay.columnSize? (Cell.key 3 0 1) =
      some 1 := by
    rw [Fragments.Turn.start, Fragments.crowdedTurn, List.foldl_cons, List.foldl_nil, Draft.pass,
      Draft.columnSize?_foldl, hblank.columnSize?_eq, Option.none_or, hblank.size]
    exact Clip.row_heightAt
  have hdrops := (hturns Fragments.crowdedTurn (Cell.key 3 0 1) 1 rfl).1.mpr ⟨1, hcolumn, by decide⟩
  obtain ⟨r, hr, hindex⟩ := List.mem_map.mp ((hmem 1).mpr ⟨_, hdrops⟩)
  refine ⟨o, notices, r.2, hexec, ?_⟩
  rw [hnotices, ← hindex, List.mem_toArray]
  exact List.mem_map_of_mem hr

end PlotGrid
