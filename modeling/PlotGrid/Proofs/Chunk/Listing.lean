import Mathlib.Algebra.GroupWithZero.Nat
import PlotGrid.Proofs.Chunk.Cells

/-!
# Listing cells

Cells are kept in nested lists of entries that may be absent. Listing such a list level by level
gives the entries that are there, each once and in the order of their indices.

- `present`: the entries of one level with their indices.
- `nested`: what the entries of a level list, each with the index of its entry.
- `Cells.mem_toList_iff`, `Cells.pairwise_toList`: the list of all cells of a box.
-/

namespace PlotGrid

/-! ## One level -/

section Level

variable {β γ : Type} {l : List (Option β)} {i : Nat}

/-- The entries of a list that are there, with their indices. -/
def present (l : List (Option β)) : List (Nat × β) :=
  l.zipIdx.filterMap fun entry => entry.1.map fun b => (entry.2, b)

theorem mem_present_iff {b : β} : (i, b) ∈ present l ↔ l[i]? = some (some b) := by
  rw [present, List.mem_filterMap]
  constructor
  · rintro ⟨⟨entry, j⟩, hmem, h⟩
    obtain ⟨b', hentry, h⟩ := Option.map_eq_some_iff.mp h
    obtain ⟨rfl, rfl⟩ := Prod.mk.inj h
    rw [← List.mk_mem_zipIdx_iff_getElem?, ← hentry]
    exact hmem
  · intro h
    exact ⟨(some b, i), List.mk_mem_zipIdx_iff_getElem?.mpr h, rfl⟩

/-- Entries are listed in the order of their indices. -/
theorem pairwise_present : (present l).Pairwise fun a b => a.1 < b.1 := by
  have hindex : l.zipIdx.Pairwise fun a b => a.2 < b.2 := by
    rw [← List.pairwise_map, List.zipIdx_map_snd]
    exact List.pairwise_lt_range'
  refine List.pairwise_filterMap.mpr (hindex.imp ?_)
  intro a a' hlt b hb b' hb'
  obtain ⟨_, -, rfl⟩ := Option.map_eq_some_iff.mp hb
  obtain ⟨_, -, rfl⟩ := Option.map_eq_some_iff.mp hb'
  exact hlt

theorem length_present : (present l).length = l.countP Option.isSome := by
  have hfst : l.countP Option.isSome = (l.zipIdx.map Prod.fst).countP Option.isSome := by
    rw [List.zipIdx_map_fst]
  rw [hfst, List.countP_map, present, List.length_filterMap_eq_countP]
  refine List.countP_congr ?_
  intro entry _
  rw [Option.isSome_map, Function.comp_apply]

/-- What the entries of a list give, each result with the index of its entry. -/
def nested (l : List (Option β)) (f : β → List γ) : List (Nat × γ) :=
  (present l).flatMap fun entry => (f entry.2).map fun c => (entry.1, c)

variable {f : β → List γ}

theorem mem_nested_iff {c : γ} :
    (i, c) ∈ nested l f ↔ ∃ b, l[i]? = some (some b) ∧ c ∈ f b := by
  rw [nested, List.mem_flatMap]
  constructor
  · rintro ⟨⟨j, b⟩, hmem, h⟩
    obtain ⟨c', hc', h⟩ := List.mem_map.mp h
    obtain ⟨rfl, rfl⟩ := Prod.mk.inj h
    exact ⟨b, mem_present_iff.mp hmem, hc'⟩
  · rintro ⟨b, hb, hc⟩
    exact ⟨(i, b), mem_present_iff.mpr hb, List.mem_map_of_mem hc⟩

/-- Results are listed by the index of their entry, and within an entry in the entry's order. -/
theorem pairwise_nested {R : γ → γ → Prop} (h : ∀ b, (f b).Pairwise R) :
    (nested l f).Pairwise fun p q => p.1 < q.1 ∨ p.1 = q.1 ∧ R p.2 q.2 := by
  refine List.pairwise_flatMap.mpr ⟨?_, ?_⟩
  · intro entry _
    exact List.pairwise_map.mpr ((h entry.2).imp fun hR => .inr ⟨rfl, hR⟩)
  · refine pairwise_present.imp ?_
    intro a a' hlt p hp q hq
    obtain ⟨_, -, rfl⟩ := List.mem_map.mp hp
    obtain ⟨_, -, rfl⟩ := List.mem_map.mp hq
    exact .inl hlt

/-- The indices are taken from the entries, so it does not matter when absent ones are left out. -/
theorem flatMap_zipIdx_eq_nested (l : List (Option β)) (f : β → List γ) :
    (l.zipIdx.flatMap fun entry => ((entry.1.map f).getD []).map fun c => (entry.2, c)) =
      nested l f := by
  rw [nested, present]
  induction l.zipIdx with
  | nil => rfl
  | cons entry rest ih =>
    obtain ⟨b?, j⟩ := entry
    cases b? with
    | none => exact ih
    | some b => exact congrArg ((f b).map (fun c => (j, c)) ++ ·) ih

theorem length_nested : (nested l f).length =
    (l.map fun entry => (entry.map fun b => (f b).length).getD 0).sum := by
  have hfst : l = l.zipIdx.map Prod.fst := by
    rw [List.zipIdx_map_fst]
  rw [← flatMap_zipIdx_eq_nested, List.length_flatMap]
  conv => rhs; rw [hfst]
  rw [List.map_map]
  congr 1
  refine List.map_congr_left ?_
  rintro ⟨entry, j⟩ _
  cases entry with
  | none => rfl
  | some b => exact List.length_map _

end Level

/-! ## Boxes -/

namespace Cells

variable {α : Type}

/-- The order of cells: by `y`, then `z`, then `x`. -/
def Before (a b : Nat × Nat × Nat × α) : Prop :=
  a.1 < b.1 ∨ a.1 = b.1 ∧ (a.2.1 < b.2.1 ∨ a.2.1 = b.2.1 ∧ a.2.2.1 < b.2.2.1)

theorem layerCells_eq_nested {width length : Nat} (layer : CellLayer α width length) :
    layerCells layer = nested layer.toList rowCells :=
  flatMap_zipIdx_eq_nested layer.toList rowCells

theorem toList_eq_nested (c : Cells α) : c.toList = nested c.layers.toList layerCells :=
  flatMap_zipIdx_eq_nested c.layers.toList layerCells

theorem mem_rowCells_iff {width x : Nat} {row : CellRow α width} {v : α} :
    (x, v) ∈ rowCells row ↔ rowValue (some row) x = some v := by
  rw [rowValue, Option.bind_some, Option.join_eq_some_iff, ← Vector.getElem?_toList]
  exact mem_present_iff

theorem mem_layerCells_iff {width length x z : Nat} {layer : CellLayer α width length} {v : α} :
    (z, x, v) ∈ layerCells layer ↔ layerValue (some layer) x z = some v := by
  rw [layerCells_eq_nested, mem_nested_iff, Vector.getElem?_toList, layerValue, Option.bind_some]
  constructor
  · rintro ⟨row, hrow, hmem⟩
    rw [hrow, Option.join_some]
    exact mem_rowCells_iff.mp hmem
  · intro h
    obtain ⟨row, hrow, -⟩ := Option.bind_eq_some_iff.mp h
    refine ⟨row, Option.join_eq_some_iff.mp hrow, mem_rowCells_iff.mpr ?_⟩
    rw [← hrow]
    exact h

/-- **The cells with a value are listed, and no others.** -/
theorem mem_toList_iff {c : Cells α} {x y z : Nat} {v : α} :
    (y, z, x, v) ∈ c.toList ↔ c.get? x y z = some v := by
  rw [toList_eq_nested, mem_nested_iff, Array.getElem?_toList, get?_eq]
  constructor
  · rintro ⟨layer, hlayer, hmem⟩
    rw [hlayer, Option.join_some]
    exact mem_layerCells_iff.mp hmem
  · intro h
    obtain ⟨layer, hlayer, -⟩ := Option.bind_eq_some_iff.mp h
    refine ⟨layer, Option.join_eq_some_iff.mp hlayer, mem_layerCells_iff.mpr ?_⟩
    rw [← hlayer]
    exact h

/-- **Cells are listed in their order.** -/
theorem pairwise_toList (c : Cells α) : c.toList.Pairwise Before := by
  have hlayer (layer : CellLayer α c.width c.length) : (layerCells layer).Pairwise
      fun a b => a.1 < b.1 ∨ a.1 = b.1 ∧ a.2.1 < b.2.1 := by
    rw [layerCells_eq_nested]
    exact pairwise_nested fun row => pairwise_present
  rw [toList_eq_nested]
  exact pairwise_nested hlayer

end Cells

end PlotGrid
