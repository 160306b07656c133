import PlotGrid.Chunk.Cells

/-!
# Writing cells

A write changes the value of the written cells and of no other, and keeps the box. Layers and rows
that appear on the way have no values.

- `Cells.get?_empty`, `Cells.get?_set`, `Cells.get?_setColumn`: the value of a cell.
- `Cells.inside_of_get?`: only cells of the box have values.
- `Cells.dims`: the edges of a box.
-/

namespace PlotGrid.Cells

variable {α : Type}

/-- The edges of a box. -/
def dims (c : Cells α) : Nat × Nat × Nat :=
  (c.width, c.length, c.height)

/-! ## Rows and layers -/

theorem getElem?_change {β : Type} {n : Nat} (entries : Vector β n) (i j : Nat) (f : β → β) :
    (change entries i f)[j]? = if i = j then entries[j]?.map f else entries[j]? := by
  obtain ⟨list, hlist⟩ := entries
  rw [change, Vector.getElem?_mk, Vector.getElem?_mk, Array.getElem?_modify]

/-- The value in a row that may not have appeared. -/
def rowValue {width : Nat} (row : Option (CellRow α width)) (x : Nat) : Option α :=
  row.bind fun entries => entries[x]?.join

/-- The value in a layer that may not have appeared. -/
def layerValue {width length : Nat} (layer : Option (CellLayer α width length)) (x z : Nat) :
    Option α :=
  layer.bind fun rows => rowValue rows[z]?.join x

theorem rowValue_setRow {width : Nat} (row : Option (CellRow α width)) (x x' : Nat) (v : α) :
    rowValue (setRow x v row) x' = if x = x' ∧ x < width then some v else rowValue row x' := by
  rw [setRow, rowValue, Option.bind_some, getElem?_change]
  by_cases hx : x = x'
  · subst hx
    rw [if_pos rfl]
    by_cases hin : x < width
    · rw [if_pos ⟨rfl, hin⟩, Vector.getElem?_eq_getElem hin]
      rfl
    · rw [if_neg fun h => hin h.2, Vector.getElem?_eq_none (Nat.le_of_not_lt hin)]
      cases row with
      | none => rfl
      | some entries =>
        rw [rowValue, Option.bind_some, Vector.getElem?_eq_none (Nat.le_of_not_lt hin)]
        rfl
  · rw [if_neg hx, if_neg fun h => hx h.1]
    cases row with
    | none =>
      rw [Option.getD_none, Vector.getElem?_replicate]
      split <;> rfl
    | some entries => rfl

theorem layerValue_setLayer {width length : Nat} (layer : Option (CellLayer α width length))
    (x z x' z' : Nat) (v : α) :
    layerValue (setLayer x z v layer) x' z' =
      if (x = x' ∧ x < width) ∧ z = z' ∧ z < length then some v else layerValue layer x' z' := by
  -- a layer that appears now holds no values, as if it were not there
  have hvalue : rowValue (layer.getD (.replicate length none))[z']?.join x' =
      layerValue layer x' z' := by
    cases layer with
    | none =>
      rw [Option.getD_none, Vector.getElem?_replicate]
      split <;> rfl
    | some rows => rfl
  rw [setLayer, layerValue, Option.bind_some, getElem?_change, ← hvalue]
  by_cases hz : z = z'
  · subst hz
    rw [if_pos rfl]
    by_cases hin : z < length
    · rw [Vector.getElem?_eq_getElem hin, Option.map_some, Option.join_some, Option.join_some,
        rowValue_setRow]
      simp only [hin, and_self, and_true]
    · rw [if_neg fun h => hin h.2.2, Vector.getElem?_eq_none (Nat.le_of_not_lt hin)]
      rfl
  · rw [if_neg hz, if_neg fun h => hz h.2.1]

/-! ## Boxes -/

theorem get?_eq (c : Cells α) (x y z : Nat) : c.get? x y z = layerValue c.layers[y]?.join x z := by
  unfold get? layerValue
  cases c.layers[y]? with
  | none => rfl
  | some layer =>
    cases layer with
    | none => rfl
    | some rows =>
      show (rows[z]?.bind _) = rowValue rows[z]?.join x
      cases rows[z]? with
      | none => rfl
      | some row =>
        cases row with
        | none => rfl
        | some entries =>
          show (entries[x]?.bind _) = entries[x]?.join
          cases entries[x]? <;> rfl

@[simp] theorem dims_set (c : Cells α) (x y z : Nat) (v : α) : (c.set x y z v).dims = c.dims := by
  simp [dims, height, set]

@[simp] theorem dims_setColumn (c : Cells α) (x z : Nat) (v : α) :
    (c.setColumn x z v).dims = c.dims := by
  simp [dims, height, setColumn]

@[simp] theorem dims_empty (width length height : Nat) :
    (empty width length height : Cells α).dims = (width, length, height) := by
  simp [dims, Cells.height, empty]

theorem get?_empty (width length height x y z : Nat) :
    (empty width length height : Cells α).get? x y z = none := by
  rw [get?_eq, empty, Array.getElem?_replicate]
  split <;> rfl

/-- Only cells of the box have values. -/
theorem inside_of_get? {c : Cells α} {x y z : Nat} {v : α} (h : c.get? x y z = some v) :
    c.Inside x y z := by
  rw [get?_eq] at h
  obtain ⟨layer, hlayer, h⟩ := Option.bind_eq_some_iff.mp h
  obtain ⟨row, hrow, h⟩ := Option.bind_eq_some_iff.mp h
  obtain ⟨hy, -⟩ := Array.getElem?_eq_some_iff.mp (Option.join_eq_some_iff.mp hlayer)
  obtain ⟨hz, -⟩ := Vector.getElem?_eq_some_iff.mp (Option.join_eq_some_iff.mp hrow)
  obtain ⟨hx, -⟩ := Vector.getElem?_eq_some_iff.mp (Option.join_eq_some_iff.mp h)
  exact ⟨hx, hy, hz⟩

/-- **A write gives its cell the value and keeps all others.** -/
theorem get?_set (c : Cells α) (x y z x' y' z' : Nat) (v : α) :
    (c.set x y z v).get? x' y' z' =
      if c.Inside x y z ∧ x = x' ∧ y = y' ∧ z = z' then some v else c.get? x' y' z' := by
  rw [get?_eq, get?_eq]
  show layerValue (c.layers.modify y (setLayer x z v))[y']?.join x' z' = _
  rw [Array.getElem?_modify]
  by_cases hy : y = y'
  · subst hy
    rw [if_pos rfl]
    by_cases hin : y < c.height
    · rw [Array.getElem?_eq_getElem hin, Option.map_some, Option.join_some, Option.join_some,
        layerValue_setLayer]
      refine ite_congr (propext ?_) (fun _ => rfl) fun _ => rfl
      constructor
      · rintro ⟨⟨hx, hxw⟩, hz, hzl⟩
        exact ⟨⟨hxw, hin, hzl⟩, hx, rfl, hz⟩
      · rintro ⟨⟨hxw, -, hzl⟩, hx, -, hz⟩
        exact ⟨⟨hx, hxw⟩, hz, hzl⟩
    · rw [if_neg fun h => hin h.1.2.1, Array.getElem?_eq_none (Nat.le_of_not_lt hin)]
      rfl
  · rw [if_neg hy, if_neg fun h => hy h.2.2.1]

/-- A write of a whole column gives all its cells the value and keeps all others. -/
theorem get?_setColumn (c : Cells α) (x z x' y' z' : Nat) (v : α) :
    (c.setColumn x z v).get? x' y' z' =
      if c.Inside x y' z ∧ x = x' ∧ z = z' then some v else c.get? x' y' z' := by
  rw [get?_eq, get?_eq]
  show layerValue (c.layers.map (setLayer x z v))[y']?.join x' z' = _
  rw [Array.getElem?_map]
  by_cases hin : y' < c.height
  · rw [Array.getElem?_eq_getElem hin, Option.map_some, Option.join_some, Option.join_some,
      layerValue_setLayer]
    refine ite_congr (propext ?_) (fun _ => rfl) fun _ => rfl
    constructor
    · rintro ⟨⟨hx, hxw⟩, hz, hzl⟩
      exact ⟨⟨hxw, hin, hzl⟩, hx, hz⟩
    · rintro ⟨⟨hxw, -, hzl⟩, hx, hz⟩
      exact ⟨⟨hx, hxw⟩, hz, hzl⟩
  · rw [if_neg fun h => hin h.1.2.1, Array.getElem?_eq_none (Nat.le_of_not_lt hin)]
    rfl

end PlotGrid.Cells
