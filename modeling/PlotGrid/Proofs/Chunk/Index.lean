import Mathlib.Algebra.Group.Int.Defs
import Mathlib.Data.List.FinRange
import PlotGrid.Chunk.Section

/-!
# Index of a section

The tables of a section are filled by two loops in different orders, one over the numbers and one
over the places. Each turn of a loop enters what belongs to one cell and leaves the other cells as
they are, so at the end every number has its place and every place its number. The two agree with
each other and with the layers of all heights.

- `foldl_keeps`, `foldl_reaches`: what a loop keeps, and what it brings about for each turn.
- `Section.Tables.Places`, `Section.Tables.Numbers`: a cell is entered in the tables.
- `Section.Tables.places_build`, `Section.Tables.numbers_build`: all cells are.
- `Section.index_eq`, `Section.xOf_eq`, `Section.zOf_eq`, `Section.rise_eq`: what is looked up.
- `section_index_is_bijection`: numbers and layers against coordinates.
-/

namespace PlotGrid

/-! ## Loops -/

section Loops

variable {σ α : Type} {step : σ → α → σ}

/-- A loop keeps what each turn keeps. -/
theorem foldl_keeps {P : σ → Prop} (hkeep : ∀ s a, P s → P (step s a)) (l : List α) {s : σ}
    (h : P s) : P (l.foldl step s) := by
  induction l generalizing s with
  | nil => exact h
  | cons a rest ih => exact ih (hkeep s a h)

/-- What a turn brings about for its own item, and every turn keeps, holds for all items. -/
theorem foldl_reaches {P : σ → α → Prop} (hown : ∀ s a, P (step s a) a)
    (hkeep : ∀ s a b, P s b → P (step s a) b) (l : List α) (s : σ) :
    ∀ a ∈ l, P (l.foldl step s) a := by
  induction l generalizing s with
  | nil => exact fun a ha => nomatch ha
  | cons b rest ih =>
    intro a ha
    rcases List.mem_cons.mp ha with rfl | ha
    · exact foldl_keeps (P := (P · a)) (fun s b => hkeep s b a) rest (hown s a)
    · exact ih (step s b) a ha

end Loops

namespace Section

/-! ## Tables -/

section Vectors

variable {α : Type} {n : Nat} {i j : Fin n}

theorem get_set_self (v : Vector α n) (j : Fin n) (a : α) : (v.set j.val a j.isLt).get j = a :=
  Vector.getElem_set_self j.isLt

theorem get_set_ne (v : Vector α n) (h : j ≠ i) (a : α) :
    (v.set j.val a j.isLt).get i = v.get i :=
  Vector.getElem_set_ne j.isLt i.isLt (Fin.val_ne_of_ne h)

end Vectors

namespace Tables

/-- The place of a number is entered. -/
structure Places (t : Tables) (j : Fin volume) : Prop where
  x : (t.xs.get j).toNat = j.val % 16
  y : (t.ys.get j).toNat = j.val / 256
  z : (t.zs.get j).toNat = j.val / 16 % 16

/-- The number of a place is entered. -/
def Numbers (t : Tables) (y x z : Fin edge) : Prop :=
  (((t.numbers.get y).get x).get z).toNat = y.val * 256 + z.val * 16 + x.val

variable {t : Tables} {i : Fin volume} {y x z : Fin edge}

theorem places_enterPlace (t : Tables) (j : Fin volume) : (t.enterPlace j).Places j := by
  have hj : j.val < 4096 := j.isLt
  have hy : j.val >>> 8 = j.val / 256 := Nat.shiftRight_eq_div_pow _ _
  have hrest : j.val - (j.val / 256) <<< 8 = j.val % 256 := by
    rw [Nat.shiftLeft_eq]
    omega
  have hz : (j.val % 256) >>> 4 = j.val / 16 % 16 := by
    rw [Nat.shiftRight_eq_div_pow]
    omega
  have hx : j.val % 256 - (j.val / 16 % 16) <<< 4 = j.val % 16 := by
    rw [Nat.shiftLeft_eq]
    omega
  have hbyte {n : Nat} (hn : n < 16) : (UInt8.ofNat n).toNat = n :=
    UInt8.toNat_ofNat_of_lt' (by simp only [UInt8.size]; omega)
  constructor
  all_goals
    simp only [enterPlace, hy, hrest, hz, hx, get_set_self]
    exact hbyte (by omega)

theorem Places.enterPlace (h : t.Places i) (j : Fin volume) : (t.enterPlace j).Places i := by
  by_cases hij : j = i
  · subst hij
    exact places_enterPlace t j
  · have hother (v : Vector UInt8 volume) (b : UInt8) : (v.set j.val b j.isLt).get i = v.get i :=
      get_set_ne v hij b
    exact ⟨by rw [← h.x]; exact congrArg _ (hother ..), by rw [← h.y]; exact congrArg _ (hother ..),
      by rw [← h.z]; exact congrArg _ (hother ..)⟩

/-- The bits of the three axes do not meet. -/
theorem or_eq_add (y x z : Fin edge) :
    y.val <<< 8 ||| z.val <<< 4 ||| x.val = y.val * 256 + z.val * 16 + x.val := by
  have hz : z.val < 16 := z.isLt
  have hx : x.val < 16 := x.isLt
  rw [← Nat.shiftLeft_add_eq_or_of_lt (i := 8) (by rw [Nat.shiftLeft_eq]; omega)]
  have hhigh : y.val <<< 8 + z.val <<< 4 = (y.val * 16 + z.val) <<< 4 := by
    simp only [Nat.shiftLeft_eq]
    omega
  rw [hhigh, ← Nat.shiftLeft_add_eq_or_of_lt (i := 4) (by omega), Nat.shiftLeft_eq]
  omega

theorem numbers_enterNumber (t : Tables) (y x z : Fin edge) :
    (t.enterNumber y x z).Numbers y x z := by
  have hy : y.val < 16 := y.isLt
  have hz : z.val < 16 := z.isLt
  have hx : x.val < 16 := x.isLt
  simp only [Numbers, enterNumber, get_set_self, or_eq_add]
  exact UInt16.toNat_ofNat_of_lt' (by simp only [UInt16.size]; omega)

theorem Numbers.enterNumber (h : t.Numbers y x z) (y' x' z' : Fin edge) :
    (t.enterNumber y' x' z').Numbers y x z := by
  -- the entry is another one, or it is entered in the same way
  by_cases hy : y' = y
  · subst hy
    by_cases hx : x' = x
    · subst hx
      by_cases hz : z' = z
      · subst hz
        exact numbers_enterNumber t y' x' z'
      · rw [Numbers, Tables.enterNumber, get_set_self, get_set_self, get_set_ne _ hz]
        exact h
    · rw [Numbers, Tables.enterNumber, get_set_self, get_set_ne _ hx]
      exact h
  · rw [Numbers, Tables.enterNumber, get_set_ne _ hy]
    exact h

theorem Numbers.enterRow (h : t.Numbers y x z) (y' x' : Fin edge) :
    (t.enterRow y' x').Numbers y x z :=
  foldl_keeps (P := (Numbers · y x z)) (fun _ z' h => h.enterNumber y' x' z') _ h

theorem Numbers.enterFloor (h : t.Numbers y x z) (y' : Fin edge) :
    (t.enterFloor y').Numbers y x z :=
  foldl_keeps (P := (Numbers · y x z)) (fun _ x' h => h.enterRow y' x') _ h

theorem numbers_enterRow (t : Tables) (y x z : Fin edge) : (t.enterRow y x).Numbers y x z :=
  foldl_reaches (P := (Numbers · y x ·)) (fun t z => numbers_enterNumber t y x z)
    (fun _ z' _ h => h.enterNumber y x z') _ t z (List.mem_finRange z)

theorem numbers_enterFloor (t : Tables) (y x z : Fin edge) : (t.enterFloor y).Numbers y x z :=
  foldl_reaches (P := (Numbers · y · z)) (fun t x => numbers_enterRow t y x z)
    (fun _ x' _ h => h.enterRow y x') _ t x (List.mem_finRange x)

/-- **Every place has its number.** -/
theorem numbers_build (y x z : Fin edge) : build.Numbers y x z :=
  foldl_reaches (P := (Numbers · · x z)) (fun t y => numbers_enterFloor t y x z)
    (fun _ y' _ h => h.enterFloor y') _ _ y (List.mem_finRange y)

theorem Places.enterNumber (h : t.Places i) (y x z : Fin edge) : (t.enterNumber y x z).Places i :=
  ⟨h.x, h.y, h.z⟩

theorem Places.enterFloor (h : t.Places i) (y : Fin edge) : (t.enterFloor y).Places i :=
  foldl_keeps (P := (Places · i)) (fun _ x h =>
    foldl_keeps (P := (Places · i)) (fun _ z h => h.enterNumber y x z) _ h) _ h

/-- **Every number has its place**; the second loop leaves the places as they are. -/
theorem places_build (j : Fin volume) : build.Places j := by
  have hfirst : Places ((List.finRange volume).foldl enterPlace blank) j :=
    foldl_reaches (P := Places) places_enterPlace (fun _ j _ h => h.enterPlace j) _ blank j
      (List.mem_finRange j)
  exact foldl_keeps (P := (Places · j)) (fun _ y h => h.enterFloor y) _ hfirst

end Tables

/-! ## Look-up -/

theorem tables_eq : tables = .build := by
  unfold tables
  rfl

theorem lowBits_val (n : Int) : (lowBits n).val = (n % 16).toNat := by
  show (BitVec.ofInt 32 n &&& 15#32).toNat = _
  have hmask : (15#32).toNat = 2 ^ 4 - 1 := rfl
  rw [BitVec.toNat_and, hmask, Nat.and_two_pow_sub_one_eq_mod, BitVec.toNat_ofInt]
  omega

theorem index_eq (x y z : Int) :
    index x y z = (y % 16).toNat * 256 + (z % 16).toNat * 16 + (x % 16).toNat := by
  have hnumber := Tables.numbers_build (lowBits y) (lowBits x) (lowBits z)
  rw [Tables.Numbers, lowBits_val, lowBits_val, lowBits_val] at hnumber
  rw [index, tables_eq]
  exact hnumber

theorem xOf_eq (j : Nat) : xOf j = (j % 16 : Nat) := by
  have hplace := (Tables.places_build (reduced j)).x
  have hreduced : (reduced j).val = j % 4096 := rfl
  rw [xOf, tables_eq]
  show ((Tables.build.xs.get (reduced j)).toNat : Int) = _
  rw [hplace, hreduced]
  omega

theorem zOf_eq (j : Nat) : zOf j = (j / 16 % 16 : Nat) := by
  have hplace := (Tables.places_build (reduced j)).z
  have hreduced : (reduced j).val = j % 4096 := rfl
  rw [zOf, tables_eq]
  show ((Tables.build.zs.get (reduced j)).toNat : Int) = _
  rw [hplace, hreduced]
  omega

theorem rise_eq (j : Nat) : rise j = (j / 256 % 16 : Nat) := by
  have hplace := (Tables.places_build (reduced j)).y
  have hreduced : (reduced j).val = j % 4096 := rfl
  rw [rise, tables_eq]
  show ((Tables.build.ys.get (reduced j)).toNat : Int) = _
  rw [hplace, hreduced]
  omega

theorem index_lt (x y z : Int) : index x y z < volume := by
  rw [index_eq, volume]
  omega

theorem xOf_index (x y z : Int) : xOf (index x y z) = x % 16 := by
  rw [xOf_eq, index_eq]
  omega

theorem zOf_index (x y z : Int) : zOf (index x y z) = z % 16 := by
  rw [zOf_eq, index_eq]
  omega

theorem rise_index (x y z : Int) : rise (index x y z) = y % 16 := by
  rw [rise_eq, index_eq]
  omega

/-! ## Layers -/

variable {y n : Int} {j : Nat}

theorem base_layer (hy : Coord.InRange y) : base (layer y) = y - y % 16 := by
  rw [Coord.inRange_iff] at hy
  have hrange : Coord.InRange (y / 16 * 16) := Coord.inRange_iff.mpr (by omega)
  show Coord.wrap (y / 16 * 16) = y - y % 16
  rw [Coord.wrap_of_inRange hrange]
  omega

/-- The base of every layer is a multiple of sixteen. -/
theorem base_emod (n : Int) : base n % 16 = 0 := by
  rw [base, Coord.wrap, Int.bmod_def]
  omega

/-- **The rise of a cell never carries the base of a layer out of the range.** -/
theorem add_base_rise (n : Int) (j : Nat) : Coord.add (base n) (rise j) = .ok (yOf n j) := by
  have hrange := Coord.inRange_iff.mp (Coord.wrap_inRange (n * 16))
  have hmultiple := base_emod n
  have hrise := rise_eq j
  refine Coord.add_eq_ok_iff.mpr ⟨Coord.inRange_iff.mpr ?_, rfl⟩
  rw [base] at hmultiple ⊢
  omega

theorem yOf_index (x z : Int) (hy : Coord.InRange y) : yOf (layer y) (index x y z) = y := by
  rw [yOf, base_layer hy, rise_index]
  omega

theorem yOf_eq (hlo : -2 ^ 27 ≤ n) (hhi : n < 2 ^ 27) :
    yOf n j = n * 16 + (j / 256 % 16 : Nat) := by
  have hrange : Coord.InRange (n * 16) := Coord.inRange_iff.mpr (by omega)
  rw [yOf, base, Coord.wrap_of_inRange hrange, rise_eq]

theorem layer_yOf (hlo : -2 ^ 27 ≤ n) (hhi : n < 2 ^ 27) (j : Nat) : layer (yOf n j) = n := by
  rw [yOf_eq hlo hhi, layer]
  omega

theorem index_place (hlo : -2 ^ 27 ≤ n) (hhi : n < 2 ^ 27) (hj : j < volume) :
    index (xOf j) (yOf n j) (zOf j) = j := by
  rw [volume] at hj
  rw [index_eq, xOf_eq, zOf_eq, yOf_eq hlo hhi]
  omega

end Section

/-- **The numbers of a section are its cells, layer by layer.** The number of a cell gives back its
`x` and `z` modulo 16 and, with the layer of its height, the height itself, in a sum that stays a
coordinate. The other way round, each number and each layer of coordinates give a height in that
layer, and the cell at that height has the number. -/
theorem section_index_is_bijection :
    (∀ x y z : Int, Coord.InRange x → Coord.InRange y → Coord.InRange z →
      Section.index x y z < Section.volume ∧
      Section.xOf (Section.index x y z) = x % 16 ∧
      Section.zOf (Section.index x y z) = z % 16 ∧
      Coord.add (Section.base (Section.layer y)) (Section.rise (Section.index x y z)) = .ok y ∧
      Section.yOf (Section.layer y) (Section.index x y z) = y) ∧
    ∀ (n : Int) (j : Nat), -2 ^ 27 ≤ n → n < 2 ^ 27 → j < Section.volume →
      Coord.add (Section.base n) (Section.rise j) = .ok (Section.yOf n j) ∧
      Section.layer (Section.yOf n j) = n ∧
      Section.index (Section.xOf j) (Section.yOf n j) (Section.zOf j) = j := by
  constructor
  · intro x y z _ hy _
    have hheight := Section.yOf_index x z hy
    have hsum := Section.add_base_rise (Section.layer y) (Section.index x y z)
    rw [hheight] at hsum
    exact ⟨Section.index_lt x y z, Section.xOf_index x y z, Section.zOf_index x y z, hsum, hheight⟩
  · intro n j hlo hhi hj
    exact ⟨Section.add_base_rise n j, Section.layer_yOf hlo hhi j, Section.index_place hlo hhi hj⟩

/-- A cell below height zero, and the last number of the lowest layer of all. -/
theorem section_index_of_corners :
    (Coord.InRange (-1) ∧ Coord.InRange (-17) ∧ Coord.InRange 33 ∧
      Section.xOf (Section.index (-1) (-17) 33) = -1 % 16 ∧
      Section.yOf (Section.layer (-17)) (Section.index (-1) (-17) 33) = -17) ∧
    (-2 ^ 27 : Int) ≤ -134217728 ∧ 4095 < Section.volume ∧
      Section.layer (Section.yOf (-134217728) 4095) = -134217728 ∧
      Section.index (Section.xOf 4095) (Section.yOf (-134217728) 4095) (Section.zOf 4095) =
        4095 := by
  obtain ⟨hcell, hnumber⟩ := section_index_is_bijection
  obtain ⟨-, hx, -, -, hy⟩ := hcell (-1) (-17) 33 (by decide) (by decide) (by decide)
  obtain ⟨-, hlayer, hindex⟩ := hnumber (-134217728) 4095 (by decide) (by decide) (by decide)
  exact ⟨⟨by decide, by decide, by decide, hx, hy⟩, by decide, by decide, hlayer, hindex⟩

end PlotGrid
