import PlotGrid.Grid.Column
import PlotGrid.Proofs.Overflow

/-!
# The columns of a buffer

The columns of a buffer are computed axis by axis, with a running remainder. Each place of the
buffer has exactly one column, and its position within the cell is the remainder of its absolute
coordinates.

- `Geometry.columnOf`: the column of a place.
- `relativeOffsets_eq_ok`: the positions along one axis.
- `mem_columnsOf_iff`: the columns of a buffer are those of its places.
- `columnsOf_eq_error`: why there may be none.
-/

namespace PlotGrid

/-- A loop whose results are known. -/
theorem Checked.mapM_eq_ok {α β : Type} {l : List α} {f : α → Checked β} {g : α → β} {r : List β}
    (h : l.mapM f = .ok r) (hf : ∀ a ∈ l, ∀ b, f a = .ok b → b = g a) : r = l.map g := by
  induction l generalizing r with
  | nil =>
    cases h
    rfl
  | cons a rest ih =>
    rw [List.mapM_cons] at h
    obtain ⟨b, hb, h⟩ := bind_eq_ok_iff.mp h
    obtain ⟨bs, hbs, h⟩ := bind_eq_ok_iff.mp h
    have h := Except.ok.inj h
    subst h
    rw [hf a List.mem_cons_self b hb, ih hbs fun c hc => hf c (List.mem_cons_of_mem a hc)]
    rfl

/-! ## One axis -/

/-- The positions along one axis are the remainders of the coordinates. -/
theorem relativeOffsets_eq_ok {start size : Int} {extent : Nat} {offsets : List Int}
    (hsize : 0 < size) (hextent : Coord.InRange extent)
    (h : relativeOffsets start size extent = .ok offsets) :
    offsets = (List.range extent).map fun (i : Nat) => (start + i) % size := by
  obtain ⟨first, hfirst, h⟩ := Checked.bind_eq_ok_iff.mp h
  rw [Coord.residue, if_neg (by omega), if_neg (by omega)] at hfirst
  have hfirst := Except.ok.inj hfirst
  subst hfirst
  rw [Coord.wrap_of_inRange hextent, Int.toNat_natCast] at h
  refine Checked.mapM_eq_ok h ?_
  intro i _ b hb
  obtain ⟨v, hv, hb⟩ := Checked.bind_eq_ok_iff.mp hb
  obtain ⟨-, rfl⟩ := Coord.add_eq_ok_iff.mp hv
  have hb := Except.ok.inj hb
  subst hb
  -- the running remainder is reduced only where it has left the cell
  have hnonneg := Int.emod_nonneg start (Int.ne_of_gt hsize)
  split
  · rw [Int.emod_add_emod]
  · rename_i hlt
    rw [← Int.emod_add_emod, Int.emod_eq_of_lt (a := start % size + i) (by omega) (by omega)]

theorem onlyOverflow_relativeOffsets {start size : Int} (hsize : 0 < size) (extent : Nat) :
    OnlyOverflow (relativeOffsets start size extent) :=
  (OnlyFaults.residue hsize).bind fun _ _ =>
    OnlyFaults.mapM fun _ _ => (OnlyFaults.add _ _).bind fun _ _ => .ok _

theorem zipIdx_map_range {α : Type} (n : Nat) (f : Nat → α) :
    ((List.range n).map f).zipIdx = (List.range n).map fun i => (f i, i) := by
  refine List.ext_getElem (by simp) ?_
  intro i hi hi'
  simp

/-! ## Both axes -/

/-- The column of a place of a buffer. -/
def Geometry.columnOf (g : Geometry) (size upper : Int) (bottom : BlockPos) (x z : Nat) : Column :=
  let rx := (bottom.x + x - g.roadOffsetX) % size
  let rz := (bottom.z + z - g.roadOffsetZ) % size
  { x, z, rx, rz, kind := .classify rx rz g.pathLower upper }

variable {g : Geometry} {bottom : BlockPos} {width length : Nat} {columns : List Column}

/-- The columns of a buffer are those of its places. -/
theorem mem_columnsOf_iff (hpos : 0 < g.plotWidth + g.roadWidth) (hwidth : Coord.InRange width)
    (hlength : Coord.InRange length) (h : columnsOf g bottom width length = .ok columns) :
    ∃ upper, g.size = .ok (g.plotWidth + g.roadWidth) ∧ g.pathUpper = .ok upper ∧
      ∀ c, c ∈ columns ↔ ∃ x z, x < width ∧ z < length ∧
        c = g.columnOf (g.plotWidth + g.roadWidth) upper bottom x z := by
  -- the steps of the computation, one after the other
  obtain ⟨size, hsize, h⟩ := Checked.bind_eq_ok_iff.mp h
  obtain ⟨-, hedge⟩ := Coord.add_eq_ok_iff.mp hsize
  rw [hedge] at hsize
  obtain ⟨upper, hupper, h⟩ := Checked.bind_eq_ok_iff.mp h
  obtain ⟨startX, hstartX, h⟩ := Checked.bind_eq_ok_iff.mp h
  obtain ⟨-, rfl⟩ := Coord.sub_eq_ok_iff.mp hstartX
  obtain ⟨relX, hrelX, h⟩ := Checked.bind_eq_ok_iff.mp h
  obtain ⟨startZ, hstartZ, h⟩ := Checked.bind_eq_ok_iff.mp h
  obtain ⟨-, rfl⟩ := Coord.sub_eq_ok_iff.mp hstartZ
  obtain ⟨relZ, hrelZ, h⟩ := Checked.bind_eq_ok_iff.mp h
  obtain ⟨count, -, h⟩ := Checked.bind_eq_ok_iff.mp h
  obtain ⟨⟨⟩, -, h⟩ := Checked.bind_eq_ok_iff.mp h
  have h := Except.ok.inj h
  subst h
  rw [hedge] at hrelX hrelZ
  rw [relativeOffsets_eq_ok hpos hwidth hrelX, relativeOffsets_eq_ok hpos hlength hrelZ,
    zipIdx_map_range, zipIdx_map_range]
  refine ⟨upper, hsize, hupper, ?_⟩
  intro c
  have hshift (a b n : Int) : a - b + n = a + n - b := by omega
  simp only [List.mem_flatMap, List.mem_map, List.mem_range, Geometry.columnOf, hshift]
  constructor
  · rintro ⟨-, ⟨x, hx, rfl⟩, -, ⟨z, hz, rfl⟩, rfl⟩
    exact ⟨x, z, hx, hz, rfl⟩
  · rintro ⟨x, z, hx, hz, rfl⟩
    exact ⟨_, ⟨x, hx, rfl⟩, _, ⟨z, hz, rfl⟩, rfl⟩

/-- **The columns of a buffer can be had** unless a coordinate overflows or there is no room for the
list of them. -/
theorem columnsOf_eq_error {fault : Fault} (hpos : 0 < g.plotWidth + g.roadWidth)
    (hwidth : Coord.InRange width) (hlength : Coord.InRange length)
    (h : columnsOf g bottom width length = .error fault) : fault = .overflow ∨
      fault = .capacity ∧ Count.room ≤ Column.bytes * (width * length) := by
  have hupper : OnlyOverflow g.pathUpper := by
    unfold Geometry.pathUpper
    split
    · exact (OnlyFaults.add _ _).bind fun _ _ => .add _ _
    · exact .sum _ _
  have hmono {α : Type} {r : Checked α} (hr : OnlyOverflow r) : OnlyFaults (fun fault =>
      fault = .overflow ∨ fault = .capacity ∧ Count.room ≤ Column.bytes * (width * length)) r :=
    hr.mono fun _ => .inl
  refine OnlyFaults.bind (hmono (.add _ _)) (fun size hsize => ?_) fault h
  obtain ⟨-, hedge⟩ := Coord.add_eq_ok_iff.mp hsize
  have hpos : 0 < size := hedge ▸ hpos
  refine (hmono hupper).bind fun _ _ => (hmono (.sub _ _)).bind fun _ _ => ?_
  refine (hmono (onlyOverflow_relativeOffsets hpos _)).bind fun relX hrelX => ?_
  refine (hmono (.sub _ _)).bind fun _ _ => ?_
  refine (hmono (onlyOverflow_relativeOffsets hpos _)).bind fun relZ hrelZ => ?_
  have hcount : relX.length * relZ.length = width * length := by
    rw [relativeOffsets_eq_ok hpos hwidth hrelX, relativeOffsets_eq_ok hpos hlength hrelZ]
    simp
  rw [Count.mul, hcount]
  refine (hmono fun _ hfault => (Count.narrow_eq_error_iff.mp hfault).2).bind fun n hn => ?_
  obtain ⟨-, rfl⟩ := Count.narrow_eq_ok_iff.mp hn
  refine OnlyFaults.bind (fun fault hfault => ?_) fun _ _ => .ok _
  exact .inr (Count.reserve_eq_error_iff.mp hfault).symm

end PlotGrid
