import Mathlib.Algebra.GroupWithZero.Nat
import PlotGrid.Bucket

/-!
# Entries of a bucket

A bucket is made of one voxel, or it is read: entries are added one after the other, each of a
block without rotation tag and with a positive weight, as long as the sum of the weights is no
more than the greatest one.

- `Bucket.eq_or_add_of_addPart`: what a part of the text does to a bucket.
- `Bucket.parse_induction`: what holds of all buckets that are read.
- `Bucket.Made`: how a bucket comes about.
- `Bucket.Made.measured`: it has entries with positive weights, and their sum is known.
-/

namespace PlotGrid.Bucket

variable {reg : Registry} {spec : String} {b b' : Bucket}

/-- A part of the text adds one entry or nothing. -/
theorem eq_or_add_of_addPart {part : List Char} (h : addPart reg spec b part = .ok b') :
    b' = b ∨ ∃ block n, 0 < n ∧ b.total + n ≤ greatestWeight ∧ b' = b.add ⟨block, none⟩ n := by
  simp only [addPart] at h
  split at h
  · exact .inl (Except.ok.inj h).symm
  · split at h
    · cases h
    · split at h
      · exact .inl (Except.ok.inj h).symm
      · rename_i hweight
        split at h
        · cases h
        · rename_i block _
          split at h
          · cases h
          · rename_i hsum
            exact .inr ⟨block, _, Nat.pos_of_ne_zero hweight, Nat.not_lt.mp hsum,
              (Except.ok.inj h).symm⟩

/-- What each added entry keeps, all parts of a text keep. -/
theorem foldlM_addPart_induction {P : Bucket → Prop}
    (hadd : ∀ b block n, P b → 0 < n → b.total + n ≤ greatestWeight → P (b.add ⟨block, none⟩ n))
    {parts : List (List Char)} (hb : P b) (h : parts.foldlM (addPart reg spec) b = .ok b') :
    P b' := by
  induction parts generalizing b with
  | nil => exact Except.ok.inj h ▸ hb
  | cons part rest ih =>
    rw [List.foldlM_cons] at h
    obtain ⟨next, hnext, h⟩ := Checked.bind_eq_ok_iff.mp h
    refine ih ?_ h
    obtain rfl | ⟨block, n, hpos, hsum, rfl⟩ := eq_or_add_of_addPart hnext
    · exact hb
    · exact hadd b block n hb hpos hsum

/-- **What holds of the empty bucket and is kept by each added entry holds of all buckets that are
read**, and these are not empty. -/
theorem parse_induction {P : Bucket → Prop} (hempty : P empty)
    (hadd : ∀ b block n, P b → 0 < n → b.total + n ≤ greatestWeight → P (b.add ⟨block, none⟩ n))
    (h : parse reg spec = .ok b) : P b ∧ b.entries ≠ [] := by
  obtain ⟨read, hread, h⟩ := Checked.bind_eq_ok_iff.mp h
  split at h
  · cases h
  · rename_i hentries
    obtain rfl := Except.ok.inj h
    exact ⟨foldlM_addPart_induction hadd hempty hread, by simpa using hentries⟩

/-! ## Weights -/

/-- The sum of the weights of entries. -/
def weight (entries : List (Voxel × Nat)) : Nat :=
  (entries.map Prod.snd).sum

/-- All entries have positive weights, and their sum is known and not too large. -/
structure Measured (b : Bucket) : Prop where
  positive : ∀ e ∈ b.entries, 0 < e.2
  total : b.total = weight b.entries
  le : b.total ≤ greatestWeight

theorem empty_measured : empty.Measured :=
  ⟨fun _ he => absurd he List.not_mem_nil, rfl, Nat.zero_le _⟩

/-- An entry with a positive weight keeps a bucket measured, if the sum allows for it. -/
theorem Measured.add (hb : b.Measured) {n : Nat} (hpos : 0 < n)
    (hsum : b.total + n ≤ greatestWeight) (v : Voxel) : (b.add v n).Measured := by
  constructor
  · intro e he
    rcases List.mem_append.mp he with hold | hnew
    · exact hb.positive e hold
    · rw [List.mem_singleton.mp hnew]
      exact hpos
  · show b.total + n = weight (b.entries ++ [(v, n)])
    simp [weight, hb.total]
  · exact hsum

/-- The ways in which a bucket comes about. -/
inductive Made : Bucket → Prop
  | single (v : Voxel) : Made (.single v)
  | parse {reg : Registry} {spec : String} {b : Bucket} (h : parse reg spec = .ok b) : Made b

/-- **A bucket has entries, all with positive weights, and knows their sum.** -/
theorem Made.measured (h : b.Made) : b.Measured ∧ b.entries ≠ [] := by
  cases h with
  | single v =>
    have hle : 1 ≤ greatestWeight := by decide
    exact ⟨⟨by simp [Bucket.single], rfl, hle⟩, List.cons_ne_nil _ _⟩
  | parse h =>
    exact parse_induction empty_measured
      (fun b block n hb hpos hsum => hb.add hpos hsum ⟨block, none⟩) h

end PlotGrid.Bucket
