import Mathlib.Logic.ExistsUnique
import PlotGrid.Grid.Column
import PlotGrid.Overlay.Build

/-!
# The layout of a cell

Fragments and generated columns divide a cell in the same way. A fragment goes to one of four
*slots*: the plot, the road along one axis, the turned road along the other, and the crossing.
Along one axis a slot is either the strip of the plot or the two strips of road on both sides of
it, so the whole layout comes down to one axis at a time.

- `Slot`, `Slot.target`, `Slot.Holds`: the slots, where their columns go and which columns they
  have at full size.
- `Geometry.lead`, `Geometry.OnPlot`: the road in front of the plot, the strip of the plot.
- `Slot.owner`, `Slot.columnAt`: the slot and the column that a position belongs to.
- `Slot.offset_emod_iff`: a column lands on a position iff it is the position's own.
- `slots_divide_cell`: the slots divide the cell, and the plot's slot holds the columns that are
  generated as plot.
-/

namespace PlotGrid

/-- The parts of a cell that fragments fill. -/
inductive Slot
  | plot
  | straight
  | turned
  | crossing
  deriving Repr, DecidableEq

namespace Geometry

/-- The number of road columns in front of the plot, along either axis. -/
def lead (g : Geometry) : Int :=
  g.shift + g.oddShift

/-- A position along one axis that lies within the strip of the plot. -/
def OnPlot (g : Geometry) (r : Int) : Prop :=
  g.lead ≤ r ∧ r < g.lead + g.plotWidth

instance (g : Geometry) (r : Int) : Decidable (g.OnPlot r) :=
  inferInstanceAs (Decidable (_ ∧ _))

/-- A cell with a plot and a road whose positions fit into a number of 15 bits. -/
structure Paved (g : Geometry) : Prop where
  plot : 1 ≤ g.plotWidth
  road : 1 ≤ g.roadWidth
  size : g.plotWidth + g.roadWidth ≤ greatestSize

end Geometry

namespace Slot

/-- Where the columns of a fragment of full size go. -/
def target (g : Geometry) : Slot → ColumnTarget
  | .plot => g.plotTarget 0 0
  | .straight => g.roadTarget
  | .turned => g.turnedTarget
  | .crossing => g.crossingTarget

/-- The width of a fragment of full size. -/
def width (g : Geometry) : Slot → Int
  | .plot => g.plotWidth
  | .straight | .turned | .crossing => g.roadWidth

/-- The length of a fragment of full size. -/
def length (g : Geometry) : Slot → Int
  | .plot | .straight | .turned => g.plotWidth
  | .crossing => g.roadWidth

/-- A column of a fragment of full size. -/
def Holds (g : Geometry) (s : Slot) (x z : Nat) : Prop :=
  (x : Int) < s.width g ∧ (z : Int) < s.length g

/-- The position of a column before it is wrapped around the cell. -/
def offset (g : Geometry) (x z : Int) : Slot → Int × Int
  | .plot => (x + g.lead, z + g.lead)
  | .straight => (x - g.shift, z + g.lead)
  | .turned => (z + g.lead, g.lead - 1 - x)
  | .crossing => (x - g.shift, z - g.shift)

/-- The position of a column within the cell. -/
def position (g : Geometry) (s : Slot) (x z : Nat) : Checked (Int × Int) := do
  let size ← g.size
  let targetX ← (s.target g x z).1
  let targetZ ← (s.target g x z).2
  return (targetX % size, targetZ % size)

end Slot

/-! ## One axis -/

namespace Geometry

variable {g : Geometry}

/-- Half of the road lies on either side of the plot; an odd column is in front. -/
theorem shift_spec (hroad : 0 ≤ g.roadWidth) :
    0 ≤ g.shift ∧ g.shift ≤ g.lead ∧ g.lead ≤ g.shift + 1 ∧ g.roadWidth = g.shift + g.lead := by
  unfold lead shift oddShift
  rw [Int.tdiv_eq_ediv_of_nonneg hroad]
  omega

theorem Paved.size_pos (h : g.Paved) : 0 < g.plotWidth + g.roadWidth := by
  obtain ⟨hplot, hroad, -⟩ := h
  omega

/-- Every remainder is a position within the cell. -/
theorem Paved.emod_bounds (h : g.Paved) (n : Int) :
    0 ≤ n % (g.plotWidth + g.roadWidth) ∧
      n % (g.plotWidth + g.roadWidth) < g.plotWidth + g.roadWidth :=
  ⟨Int.emod_nonneg n (Int.ne_of_gt h.size_pos), Int.emod_lt_of_pos n h.size_pos⟩

theorem Paved.size_eq_ok (h : g.Paved) : g.size = .ok (g.plotWidth + g.roadWidth) := by
  obtain ⟨hplot, hroad, hsize⟩ := h
  simp only [greatestSize] at hsize
  exact Coord.narrow_of_inRange (Coord.inRange_iff.mpr ⟨by omega, by omega⟩)

/-- The walls stand directly at both sides of the plot. -/
theorem pathLower_eq (hroad : 0 ≤ g.roadWidth) : g.pathLower = g.lead - 1 := by
  unfold pathLower lead shift oddShift
  rw [Int.tdiv_eq_ediv_of_nonneg hroad]
  split <;> omega

theorem Paved.pathUpper_eq_ok (h : g.Paved) : g.pathUpper = .ok (g.lead + g.plotWidth) := by
  obtain ⟨hplot, hroad, hsize⟩ := h
  have hlower := pathLower_eq (g := g) (by omega)
  obtain ⟨h0, h1, h2, h3⟩ := shift_spec (g := g) (by omega)
  simp only [greatestSize] at hsize
  rw [pathUpper, if_neg (by omega), hlower, Coord.sum_pair_eq_ok_iff, Coord.inRange_iff,
    Coord.inRange_iff]
  omega

/-- One coordinate is neither in the road nor at a wall iff it is in the strip of the plot. -/
theorem ofAxis_eq_plot_iff (hroad : 0 ≤ g.roadWidth) {r : Int} :
    ColumnKind.ofAxis r g.pathLower (g.lead + g.plotWidth) = .plot ↔ g.OnPlot r := by
  rw [pathLower_eq hroad, ColumnKind.ofAxis, OnPlot]
  split
  · constructor
    · intro h
      cases h
    · omega
  · split
    · constructor
      · intro h
        cases h
      · omega
    · exact ⟨fun _ => by omega, fun _ => rfl⟩

/-- A position is generated as plot iff both coordinates are in the strip of the plot. -/
theorem classify_eq_plot_iff (hroad : 0 ≤ g.roadWidth) {rx rz : Int} :
    ColumnKind.classify rx rz g.pathLower (g.lead + g.plotWidth) = .plot ↔
      g.OnPlot rx ∧ g.OnPlot rz := by
  rw [← ofAxis_eq_plot_iff hroad, ← ofAxis_eq_plot_iff hroad, ColumnKind.classify]
  -- the kinds along the two axes, pair by pair
  cases ColumnKind.ofAxis rx g.pathLower (g.lead + g.plotWidth) <;>
    cases ColumnKind.ofAxis rz g.pathLower (g.lead + g.plotWidth) <;> simp

variable {r : Int}

/-- The strip of the plot is covered by the plot's width from its near edge on. -/
theorem Paved.along_emod_iff (h : g.Paved) (hr : 0 ≤ r ∧ r < g.plotWidth + g.roadWidth)
    {z : Int} (hz : 0 ≤ z ∧ z < g.plotWidth) :
    (z + g.lead) % (g.plotWidth + g.roadWidth) = r ↔ g.OnPlot r ∧ z = r - g.lead := by
  obtain ⟨hplot, hroad, -⟩ := h
  obtain ⟨h0, h1, h2, h3⟩ := shift_spec (g := g) (by omega)
  -- nothing wraps here
  rw [Cell.emod_eq_iff hr (by omega), OnPlot]
  omega

/-- The strips of road are covered by the road's width from half a road before the cell on. -/
theorem Paved.across_emod_iff (h : g.Paved) (hr : 0 ≤ r ∧ r < g.plotWidth + g.roadWidth)
    {x : Int} (hx : 0 ≤ x ∧ x < g.roadWidth) :
    (x - g.shift) % (g.plotWidth + g.roadWidth) = r ↔
      ¬ g.OnPlot r ∧ x = if r < g.lead then r + g.shift else r - g.lead - g.plotWidth := by
  obtain ⟨hplot, hroad, -⟩ := h
  obtain ⟨h0, h1, h2, h3⟩ := shift_spec (g := g) (by omega)
  -- columns in front of the cell wrap to the strip behind the plot
  rw [Cell.emod_eq_iff hr (by omega), OnPlot]
  split <;> omega

end Geometry

/-! ## Both axes -/

namespace Geometry

/-- The column across the road that a position beside the plot belongs to. -/
def across (g : Geometry) (r : Int) : Int :=
  if r < g.lead then r + g.shift else r - g.lead - g.plotWidth

theorem Paved.across_bounds {g : Geometry} (h : g.Paved) {r : Int} (hoff : ¬ g.OnPlot r)
    (hr : 0 ≤ r ∧ r < g.plotWidth + g.roadWidth) :
    0 ≤ g.across r ∧ g.across r < g.roadWidth := by
  obtain ⟨hplot, hroad, -⟩ := h
  obtain ⟨h0, h1, h2, h3⟩ := shift_spec (g := g) (by omega)
  unfold OnPlot at hoff
  unfold across
  split <;> omega

end Geometry

namespace Slot

variable {g : Geometry}

/-- The slot that a position belongs to. -/
def owner (g : Geometry) (rx rz : Int) : Slot :=
  if g.OnPlot rx then if g.OnPlot rz then .plot else .turned
  else if g.OnPlot rz then .straight else .crossing

/-- The column of a slot that a position belongs to. -/
def columnAt (g : Geometry) (rx rz : Int) : Slot → Int × Int
  | .plot => (rx - g.lead, rz - g.lead)
  | .straight => (g.across rx, rz - g.lead)
  | .turned => (g.roadWidth - 1 - g.across rz, rx - g.lead)
  | .crossing => (g.across rx, g.across rz)

/-- The turned road counts its columns from the far side. -/
theorem turned_eq_across (hroad : 0 ≤ g.roadWidth) (x : Int) :
    g.lead - 1 - x = (g.roadWidth - 1 - x) - g.shift := by
  obtain ⟨h0, h1, h2, h3⟩ := Geometry.shift_spec hroad
  omega

/-- **A column lands on a position iff the position's slot and column are its own.** -/
theorem offset_emod_iff (h : g.Paved) {s : Slot} {x z : Nat} (hs : s.Holds g x z) {rx rz : Int}
    (hx : 0 ≤ rx ∧ rx < g.plotWidth + g.roadWidth)
    (hz : 0 ≤ rz ∧ rz < g.plotWidth + g.roadWidth) :
    ((s.offset g x z).1 % (g.plotWidth + g.roadWidth) = rx ∧
        (s.offset g x z).2 % (g.plotWidth + g.roadWidth) = rz) ↔
      s = owner g rx rz ∧ ((x : Int), (z : Int)) = s.columnAt g rx rz := by
  obtain ⟨hw, hl⟩ := hs
  have hroad : 0 ≤ g.roadWidth := Int.le_trans (by decide) h.road
  -- one fact for each axis; which strips the position lies in then tells the slot
  cases s with
  | plot =>
    simp only [width, length] at hw hl
    simp only [offset, columnAt, owner, Prod.mk.injEq]
    rw [h.along_emod_iff hx ⟨by omega, hw⟩, h.along_emod_iff hz ⟨by omega, hl⟩]
    by_cases hpx : g.OnPlot rx <;> by_cases hpz : g.OnPlot rz <;> simp [hpx, hpz]
  | straight =>
    simp only [width, length] at hw hl
    simp only [offset, columnAt, owner, Prod.mk.injEq]
    rw [h.across_emod_iff hx ⟨by omega, hw⟩, h.along_emod_iff hz ⟨by omega, hl⟩]
    by_cases hpx : g.OnPlot rx <;> by_cases hpz : g.OnPlot rz <;> simp [hpx, hpz, Geometry.across]
  | turned =>
    simp only [width, length] at hw hl
    simp only [offset, columnAt, owner, Prod.mk.injEq]
    -- seen from its far side the turned axis is a road axis like the others
    rw [turned_eq_across hroad, h.along_emod_iff hx ⟨by omega, hl⟩,
      h.across_emod_iff hz ⟨by omega, by omega⟩]
    have hmirror : g.roadWidth - 1 - (x : Int) = g.across rz ↔
        (x : Int) = g.roadWidth - 1 - g.across rz := by omega
    unfold Geometry.across at hmirror ⊢
    by_cases hpx : g.OnPlot rx <;> by_cases hpz : g.OnPlot rz <;> simp [hpx, hpz, hmirror, and_comm]
  | crossing =>
    simp only [width, length] at hw hl
    simp only [offset, columnAt, owner, Prod.mk.injEq]
    rw [h.across_emod_iff hx ⟨by omega, hw⟩, h.across_emod_iff hz ⟨by omega, hl⟩]
    by_cases hpx : g.OnPlot rx <;> by_cases hpz : g.OnPlot rz <;> simp [hpx, hpz, Geometry.across]

/-- Coordinates within the bounds of a slot are one of its columns. -/
theorem exists_holds_of_columnAt {s : Slot} {rx rz x z : Int} (hc : s.columnAt g rx rz = (x, z))
    (hx : 0 ≤ x ∧ x < s.width g) (hz : 0 ≤ z ∧ z < s.length g) :
    ∃ x z : Nat, s.Holds g x z ∧ ((x : Int), (z : Int)) = s.columnAt g rx rz := by
  refine ⟨x.toNat, z.toNat, ⟨by omega, by omega⟩, ?_⟩
  rw [hc, Int.toNat_of_nonneg hx.1, Int.toNat_of_nonneg hz.1]

/-- The column of a position's own slot exists. -/
theorem owner_holds (h : g.Paved) {rx rz : Int}
    (hx : 0 ≤ rx ∧ rx < g.plotWidth + g.roadWidth)
    (hz : 0 ≤ rz ∧ rz < g.plotWidth + g.roadWidth) :
    ∃ x z : Nat, (owner g rx rz).Holds g x z ∧
      ((x : Int), (z : Int)) = (owner g rx rz).columnAt g rx rz := by
  have onPlot {r : Int} (hp : g.OnPlot r) : 0 ≤ r - g.lead ∧ r - g.lead < g.plotWidth := by
    unfold Geometry.OnPlot at hp
    omega
  -- the slot is told by which of the coordinates lie in the strip of the plot
  by_cases hpx : g.OnPlot rx <;> by_cases hpz : g.OnPlot rz
  · rw [owner, if_pos hpx, if_pos hpz]
    exact exists_holds_of_columnAt rfl (onPlot hpx) (onPlot hpz)
  · rw [owner, if_pos hpx, if_neg hpz]
    have hacross := h.across_bounds hpz hz
    exact exists_holds_of_columnAt rfl ⟨by omega, by simp only [width]; omega⟩ (onPlot hpx)
  · rw [owner, if_neg hpx, if_pos hpz]
    exact exists_holds_of_columnAt rfl (h.across_bounds hpx hx) (onPlot hpz)
  · rw [owner, if_neg hpx, if_neg hpz]
    exact exists_holds_of_columnAt rfl (h.across_bounds hpx hx) (h.across_bounds hpz hz)

/-- Two columns on one position are the same column of the same slot. -/
theorem eq_of_offset_emod_eq (h : g.Paved) {s t : Slot} {x z x' z' : Nat} (hs : s.Holds g x z)
    (ht : t.Holds g x' z')
    (hx : (s.offset g x z).1 % (g.plotWidth + g.roadWidth) =
      (t.offset g x' z').1 % (g.plotWidth + g.roadWidth))
    (hz : (s.offset g x z).2 % (g.plotWidth + g.roadWidth) =
      (t.offset g x' z').2 % (g.plotWidth + g.roadWidth)) :
    s = t ∧ x = x' ∧ z = z' := by
  -- both columns belong to the position that the second one lands on
  have hin := h.emod_bounds
  obtain ⟨hst, hc⟩ := (offset_emod_iff h hs (hin _) (hin _)).mp ⟨hx, hz⟩
  obtain ⟨htt, hc'⟩ := (offset_emod_iff h ht (hin _) (hin _)).mp ⟨rfl, rfl⟩
  have hslot : s = t := hst.trans htt.symm
  subst hslot
  have hcol := hc.trans hc'.symm
  simp only [Prod.mk.injEq, Int.natCast_inj] at hcol
  exact ⟨rfl, hcol.1, hcol.2⟩

/-- The sums of a column's target stay within the range of coordinates. -/
theorem target_eq_ok (h : g.Paved) {s : Slot} {x z : Nat} (hs : s.Holds g x z) :
    s.target g x z = (.ok (s.offset g x z).1, .ok (s.offset g x z).2) := by
  obtain ⟨hw, hl⟩ := hs
  obtain ⟨hplot, hroad, hsize⟩ := h
  simp only [greatestSize] at hsize
  obtain ⟨h0, h1, h2, h3⟩ := Geometry.shift_spec (g := g) (by omega)
  have hlead : g.lead = g.shift + g.oddShift := rfl
  -- all numbers are below twice the greatest size, so no sum leaves the range
  cases s with
  | plot =>
    simp only [width, length] at hw hl
    refine Prod.ext (Coord.sum_pair_eq_ok_iff.mpr ?_) (Coord.sum_pair_eq_ok_iff.mpr ?_) <;>
      simp only [Coord.inRange_iff, offset] <;> omega
  | straight =>
    simp only [width, length] at hw hl
    refine Prod.ext (Coord.sub_eq_ok_iff.mpr ?_) (Coord.sum_pair_eq_ok_iff.mpr ?_) <;>
      simp only [Coord.inRange_iff, offset, and_true] <;> omega
  | turned =>
    simp only [width, length] at hw hl
    refine Prod.ext (Coord.sum_pair_eq_ok_iff.mpr ?_) (Checked.bind_eq_ok_iff.mpr ?_)
    · simp only [Coord.inRange_iff, offset]
      omega
    · refine ⟨g.shift - x, Coord.sub_eq_ok_iff.mpr ?_, Coord.add_eq_ok_iff.mpr ?_⟩ <;>
        simp only [Coord.inRange_iff, offset, and_true] <;> omega
  | crossing =>
    simp only [width, length] at hw hl
    refine Prod.ext (Coord.sub_eq_ok_iff.mpr ?_) (Coord.sub_eq_ok_iff.mpr ?_) <;>
      simp only [Coord.inRange_iff, offset, and_true] <;> omega

/-- Every column of a slot has a position, which is its offset wrapped around the cell. -/
theorem position_eq_ok (h : g.Paved) {s : Slot} {x z : Nat} (hs : s.Holds g x z) :
    s.position g x z = .ok ((s.offset g x z).1 % (g.plotWidth + g.roadWidth),
      (s.offset g x z).2 % (g.plotWidth + g.roadWidth)) := by
  rw [position, h.size_eq_ok, target_eq_ok h hs]
  rfl

/-- A column has a position iff the position's slot and column are its own. -/
theorem position_eq_ok_iff (h : g.Paved) {s : Slot} {x z : Nat} (hs : s.Holds g x z) {rx rz : Int}
    (hx : 0 ≤ rx ∧ rx < g.plotWidth + g.roadWidth)
    (hz : 0 ≤ rz ∧ rz < g.plotWidth + g.roadWidth) :
    s.position g x z = .ok (rx, rz) ↔
      s = owner g rx rz ∧ ((x : Int), (z : Int)) = s.columnAt g rx rz := by
  rw [← offset_emod_iff h hs hx hz, position_eq_ok h hs, Except.ok.injEq, Prod.mk.injEq]

/-- A position on the plot's slot has both coordinates in the strip of the plot. -/
theorem owner_eq_plot_iff {rx rz : Int} : owner g rx rz = .plot ↔ g.OnPlot rx ∧ g.OnPlot rz := by
  unfold owner
  by_cases hpx : g.OnPlot rx <;> by_cases hpz : g.OnPlot rz <;> simp [hpx, hpz]

/-- A position is generated as plot iff it belongs to the plot's slot. -/
theorem classify_eq_plot_iff_owner (h : g.Paved) (rx rz : Int) :
    ColumnKind.classify rx rz g.pathLower (g.lead + g.plotWidth) = .plot ↔
      owner g rx rz = .plot := by
  rw [Geometry.classify_eq_plot_iff (Int.le_trans (by decide) h.road), owner_eq_plot_iff]

end Slot

/-- **Fragments and generated columns divide a cell in the same way.** Each column of a slot has a
position within the cell; each position belongs to exactly one column of one slot; the positions
of the plot's slot are those generated as plot, and the positions of the three road slots are
those generated as road or wall. -/
theorem slots_divide_cell {g : Geometry} (h : g.Paved) :
    ∃ upper, g.size = .ok (g.plotWidth + g.roadWidth) ∧ g.pathUpper = .ok upper ∧
      (∀ (s : Slot) (x z : Nat), s.Holds g x z →
        s.position g x z = .ok ((s.offset g x z).1 % (g.plotWidth + g.roadWidth),
          (s.offset g x z).2 % (g.plotWidth + g.roadWidth))) ∧
      ∀ rx rz : Int, (0 ≤ rx ∧ rx < g.plotWidth + g.roadWidth) →
        (0 ≤ rz ∧ rz < g.plotWidth + g.roadWidth) →
        (∃! c : Slot × Nat × Nat, c.1.Holds g c.2.1 c.2.2 ∧
          c.1.position g c.2.1 c.2.2 = .ok (rx, rz)) ∧
        (ColumnKind.classify rx rz g.pathLower upper = .plot ↔
          ∃ x z, Slot.plot.Holds g x z ∧ Slot.plot.position g x z = .ok (rx, rz)) ∧
        (ColumnKind.classify rx rz g.pathLower upper = .road ∨
            ColumnKind.classify rx rz g.pathLower upper = .wall ↔
          ∃ s x z, s ≠ Slot.plot ∧ s.Holds g x z ∧ s.position g x z = .ok (rx, rz)) := by
  refine ⟨g.lead + g.plotWidth, h.size_eq_ok, h.pathUpper_eq_ok,
    fun s x z hs => Slot.position_eq_ok h hs, fun rx rz hx hz => ?_⟩
  obtain ⟨x, z, hholds, hcol⟩ := Slot.owner_holds h hx hz
  have hpos := (Slot.position_eq_ok_iff h hholds hx hz).mpr ⟨rfl, hcol⟩
  have hplot := Slot.classify_eq_plot_iff_owner h rx rz
  refine ⟨⟨(Slot.owner g rx rz, x, z), ⟨hholds, hpos⟩, ?_⟩, ?_, ?_⟩
  · -- a column that lands here is the position's own
    rintro ⟨s, x', z'⟩ ⟨hs, hs'⟩
    obtain ⟨rfl, hc⟩ := (Slot.position_eq_ok_iff h hs hx hz).mp hs'
    have heq := hc.trans hcol.symm
    simp only [Prod.mk.injEq, Int.natCast_inj] at heq ⊢
    exact ⟨trivial, heq.1, heq.2⟩
  · rw [hplot]
    constructor
    · intro ho
      exact ⟨x, z, ho ▸ hholds, ho ▸ hpos⟩
    · rintro ⟨x', z', hs, hs'⟩
      exact ((Slot.position_eq_ok_iff h hs hx hz).mp hs').1.symm
  · -- what is not generated as plot is generated as road or wall
    have hother : ColumnKind.classify rx rz g.pathLower (g.lead + g.plotWidth) = .road ∨
        ColumnKind.classify rx rz g.pathLower (g.lead + g.plotWidth) = .wall ↔
          Slot.owner g rx rz ≠ .plot := by
      rw [Ne, ← hplot]
      cases ColumnKind.classify rx rz g.pathLower (g.lead + g.plotWidth) <;> simp
    rw [hother]
    constructor
    · intro ho
      exact ⟨_, x, z, ho, hholds, hpos⟩
    · rintro ⟨s, x', z', hne, hs, hs'⟩
      exact ((Slot.position_eq_ok_iff h hs hx hz).mp hs').1 ▸ hne

/-- A plot of two columns with a road of one column. -/
def Geometry.small : Geometry where
  plotWidth := 2
  roadWidth := 1
  roadHeight := 4
  plotHeight := 3
  wallHeight := 4
  minGen := 0
  maxGen := 15
  minBuild := 1
  maxBuild := 15
  plotBedrock := false
  roadOffsetX := 0
  roadOffsetZ := 0

theorem Geometry.small_paved : Geometry.small.Paved :=
  ⟨by decide, by decide, by decide⟩

/-- A position of a small cell that lies in the road belongs to one column of one slot. -/
theorem slots_divide_small : ∃ upper, Geometry.small.pathUpper = .ok upper ∧
    (∃! c : Slot × Nat × Nat, c.1.Holds .small c.2.1 c.2.2 ∧
      c.1.position .small c.2.1 c.2.2 = .ok (0, 2)) ∧
    (ColumnKind.classify 0 2 Geometry.small.pathLower upper = .plot ↔
      ∃ x z, Slot.plot.Holds .small x z ∧ Slot.plot.position .small x z = .ok (0, 2)) := by
  obtain ⟨upper, -, hupper, -, hpositions⟩ := slots_divide_cell Geometry.small_paved
  obtain ⟨hunique, hplot, -⟩ := hpositions 0 2 (by decide) (by decide)
  exact ⟨upper, hupper, hunique, hplot⟩

end PlotGrid
