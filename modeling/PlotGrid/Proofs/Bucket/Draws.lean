import Mathlib.Order.Interval.Finset.Nat
import PlotGrid.Proofs.Bucket.Reading

/-!
# Draws from a bucket

The entries of a bucket lie side by side, each as wide as its weight, and together they are as
wide as the total. So each number below the total falls to one entry, and as many numbers fall to
an entry as it weighs. A draw walks along the entries with the residue of a hash; on the way it
divides by a total that is positive, takes away no weight that is larger than what is left, and
ends at an entry.

- `Bucket.draw`: a draw in which each step is checked.
- `Bucket.FallsTo`: the numbers of an entry.
- `Bucket.place_eq_ok_iff`: a walk ends at the entry that its number falls to.
- `Bucket.choose_of_place`, `Bucket.pick_of_draw`: what is picked is the voxel of that entry.
- `picks_follow_weights`: all of it for the buckets that come about.
-/

namespace PlotGrid

namespace Bucket

variable {entries : List (Voxel × Nat)} {e : Voxel × Nat} {b : Bucket} {n i j : Nat}

/-! ## Checked draws -/

/-- A remainder; there is none by zero. -/
def remainder (n m : Nat) : Checked Nat :=
  if m = 0 then .error .zeroDivisor else .ok (n % m)

/-- A difference; there is none below zero. -/
def difference (n m : Nat) : Checked Nat :=
  if n < m then .error .overflow else .ok (n - m)

/-- The place of the entry at which a walk along the entries ends: each entry that is passed takes
its weight away from the number. Behind the last entry there is no place. -/
def place : List (Voxel × Nat) → Nat → Checked Nat
  | [], _ => .error .outOfRange
  | (_, w) :: rest, n =>
    if n < w then .ok 0
    else do
      let left ← difference n w
      let i ← place rest left
      return i + 1

/-- The place of the entry that a hash falls to. The residue of the hash is reduced to a word of
32 bits before the walk. -/
def draw (b : Bucket) (hash : Nat) : Checked Nat := do
  let residue ← remainder hash b.total
  place b.entries (residue % (greatestWeight + 1))

theorem place_cons_of_lt {w : Nat} {v : Voxel} (h : n < w) :
    place ((v, w) :: entries) n = .ok 0 :=
  if_pos h

theorem place_cons_of_le {w : Nat} {v : Voxel} (h : w ≤ n) :
    place ((v, w) :: entries) n = (place entries (n - w)).map (· + 1) := by
  rw [place, if_neg (Nat.not_lt.mpr h), difference, if_neg (Nat.not_lt.mpr h)]
  show (place entries (n - w) >>= fun i => pure (i + 1)) = _
  cases place entries (n - w) <;> rfl

/-! ## Numbers of an entry -/

/-- The weight before an entry. -/
def before (entries : List (Voxel × Nat)) (i : Nat) : Nat :=
  weight (entries.take i)

/-- A number falls to an entry if it is not below the weight before it, and below that and its own
weight together. -/
def FallsTo (entries : List (Voxel × Nat)) (n i : Nat) : Prop :=
  ∃ e, entries[i]? = some e ∧ before entries i ≤ n ∧ n < before entries i + e.2

@[simp] theorem weight_cons : weight (e :: entries) = e.2 + weight entries := by
  simp [weight]

@[simp] theorem before_zero : before entries 0 = 0 :=
  rfl

@[simp] theorem before_succ : before (e :: entries) (i + 1) = e.2 + before entries i := by
  simp [before]

theorem fallsTo_zero : FallsTo (e :: entries) n 0 ↔ n < e.2 := by
  simp [FallsTo]

theorem fallsTo_succ :
    FallsTo (e :: entries) n (i + 1) ↔ e.2 ≤ n ∧ FallsTo entries (n - e.2) i := by
  simp only [FallsTo, List.getElem?_cons_succ, before_succ]
  constructor
  · rintro ⟨f, hf, hlo, hhi⟩
    exact ⟨by omega, f, hf, by omega, by omega⟩
  · rintro ⟨hle, f, hf, hlo, hhi⟩
    exact ⟨f, hf, by omega, by omega⟩

/-- **A walk ends at the entry that its number falls to**, with every difference on the way. -/
theorem place_eq_ok_iff : place entries n = .ok i ↔ FallsTo entries n i := by
  induction entries generalizing n i with
  | nil => simp [place, FallsTo]
  | cons e rest ih =>
    obtain ⟨v, w⟩ := e
    by_cases hlt : n < w
    · rw [place_cons_of_lt hlt]
      cases i with
      | zero => simp [fallsTo_zero, hlt]
      | succ k => simp [fallsTo_succ, Nat.not_le.mpr hlt]
    · have hle := Nat.not_lt.mp hlt
      rw [place_cons_of_le hle, Checked.map_eq_ok_iff]
      cases i with
      | zero => simp [fallsTo_zero, hlt]
      | succ k => simp [fallsTo_succ, hle, ih]

/-- Every number below the weight of the entries falls to one. -/
theorem exists_fallsTo (h : n < weight entries) : ∃ i, FallsTo entries n i := by
  induction entries generalizing n with
  | nil => exact absurd h (Nat.not_lt_zero n)
  | cons e rest ih =>
    by_cases hlt : n < e.2
    · exact ⟨0, fallsTo_zero.mpr hlt⟩
    · rw [weight_cons] at h
      obtain ⟨i, hi⟩ := ih (n := n - e.2) (by omega)
      exact ⟨i + 1, fallsTo_succ.mpr ⟨Nat.not_lt.mp hlt, hi⟩⟩

/-- A number falls to one entry at most. -/
theorem FallsTo.unique (hi : FallsTo entries n i) (hj : FallsTo entries n j) : j = i := by
  have hplace := (place_eq_ok_iff.mpr hj).symm.trans (place_eq_ok_iff.mpr hi)
  exact Except.ok.inj hplace

/-- The numbers of an entry are below the weight of all entries. -/
theorem before_add_le (h : entries[i]? = some e) : before entries i + e.2 ≤ weight entries := by
  induction entries generalizing i with
  | nil => cases h
  | cons f rest ih =>
    cases i with
    | zero =>
      obtain rfl := Option.some.inj h
      simp
    | succ k =>
      have hrest := ih h
      simp only [before_succ, weight_cons]
      omega

/-- **As many numbers fall to an entry as it weighs.** -/
theorem card_place (h : entries[i]? = some e) :
    ((Finset.range (weight entries)).filter fun n => place entries n = .ok i).card = e.2 := by
  have hinterval : (Finset.range (weight entries)).filter (fun n => place entries n = .ok i) =
      Finset.Ico (before entries i) (before entries i + e.2) := by
    have hle := before_add_le h
    ext n
    simp only [Finset.mem_filter, Finset.mem_range, Finset.mem_Ico, place_eq_ok_iff, FallsTo, h,
      Option.some.injEq, exists_eq_left']
    omega
  rw [hinterval, Nat.card_Ico, Nat.add_sub_cancel_left]

/-! ## Picks -/

/-- The voxel that is chosen is that of the entry at which the walk ends. -/
theorem choose_of_place (h : place entries n = .ok i) :
    choose entries n = entries[i]?.map Prod.fst := by
  induction entries generalizing n i with
  | nil => cases h
  | cons e rest ih =>
    obtain ⟨v, w⟩ := e
    by_cases hlt : n < w
    · rw [place_cons_of_lt hlt] at h
      obtain rfl := Except.ok.inj h
      simp [choose, hlt]
    · rw [place_cons_of_le (Nat.not_lt.mp hlt)] at h
      obtain ⟨k, hk, rfl⟩ := Checked.map_eq_ok_iff.mp h
      simp [choose, hlt, ih hk]

/-- A bucket of one entry gives its voxel, which is what a draw would end at. -/
theorem pick_of_draw {x y z : Int}
    (hplace : place b.entries ((positionHash x y z).toNat % b.total) = .ok i) :
    some (b.pick x y z) = b.entries[i]?.map Prod.fst := by
  have hchoose := choose_of_place hplace
  obtain ⟨e, he, -⟩ := place_eq_ok_iff.mp hplace
  rw [he, Option.map_some] at hchoose ⊢
  unfold pick
  split
  · rename_i hshort
    -- the only entry is the first
    obtain ⟨hi, -⟩ := List.getElem?_eq_some_iff.mp he
    obtain rfl : i = 0 := by omega
    cases hentries : b.entries with
    | nil => simp [hentries] at hi
    | cons f rest =>
      simp only [hentries, List.getElem?_cons_zero, Option.some.injEq] at he
      simp [first, hentries, he]
  · rw [hchoose, Option.getD_some]

/-- A draw from a bucket that knows its weights ends at the entry that the residue falls to. -/
theorem Measured.draw_eq (hb : b.Measured) (hpos : 0 < b.total) (hash : Nat) :
    b.draw hash = place b.entries (hash % b.total) := by
  have hlt := Nat.mod_lt hash hpos
  have hword : hash % b.total % (greatestWeight + 1) = hash % b.total :=
    Nat.mod_eq_of_lt (by have := hb.le; omega)
  rw [draw, remainder, if_neg (Nat.ne_of_gt hpos)]
  show place b.entries (hash % b.total % (greatestWeight + 1)) = _
  rw [hword]

theorem Measured.total_pos (hb : b.Measured) (hne : b.entries ≠ []) : 0 < b.total := by
  obtain ⟨e, rest, hentries⟩ := List.exists_cons_of_ne_nil hne
  have hpositive := hb.positive e (by rw [hentries]; exact List.mem_cons_self)
  rw [hb.total, hentries, weight_cons]
  omega

end Bucket

/-- **Picks follow the weights.** A bucket that comes about has a positive total, the sum of its
weights, within the range of weights. At each position the residue of the hash falls to one entry
and no other; a draw ends there with no step that fails, also in a bucket of one entry, and the
voxel of that entry is picked. Of all residues as many end at an entry as it weighs. -/
theorem picks_follow_weights {b : Bucket} (hb : b.Made) :
    (0 < b.total ∧ b.total = (b.entries.map Prod.snd).sum ∧ b.total ≤ Bucket.greatestWeight) ∧
    (∀ x y z, let hash := (positionHash x y z).toNat
      ∃ i, Bucket.FallsTo b.entries (hash % b.total) i ∧
        (∀ j, Bucket.FallsTo b.entries (hash % b.total) j → j = i) ∧
        b.draw hash = .ok i ∧ b.entries[i]?.map Prod.fst = some (b.pick x y z)) ∧
    ∀ i e, b.entries[i]? = some e →
      ((Finset.range b.total).filter fun n => Bucket.place b.entries n = .ok i).card = e.2 := by
  obtain ⟨hmeasured, hne⟩ := hb.measured
  have hpos := hmeasured.total_pos hne
  refine ⟨⟨hpos, hmeasured.total, hmeasured.le⟩, ?_, ?_⟩
  · intro x y z hash
    have hlt : hash % b.total < Bucket.weight b.entries := hmeasured.total ▸ Nat.mod_lt hash hpos
    obtain ⟨i, hi⟩ := Bucket.exists_fallsTo hlt
    have hplace := Bucket.place_eq_ok_iff.mpr hi
    exact ⟨i, hi, fun j hj => hi.unique hj, (hmeasured.draw_eq hpos hash).trans hplace,
      (Bucket.pick_of_draw hplace).symm⟩
  · intro i e he
    rw [hmeasured.total]
    exact Bucket.card_place he

/-- Three parts of stone and one of logs. -/
def Bucket.mix : Bucket :=
  ⟨[(⟨⟨1, 0⟩, none⟩, 3), (⟨⟨2, 1⟩, none⟩, 1)], 4⟩

theorem Bucket.mix_made : Bucket.mix.Made := by
  obtain ⟨reg, hbuild, hstone, hlog⟩ := RegistryConfig.mix_blocks
  have hparts : parts 0 "minecraft:stone:3,oak_log[axis=x,age=0]:1".toList =
    [(Part.entry [] "minecraft:stone" 3 []).text,
      (Part.entry [] "oak_log[axis=x,age=0]" 1 []).text] := by decide
  have hparse : parse reg "minecraft:stone:3,oak_log[axis=x,age=0]:1" = .ok Bucket.mix := by
    rw [parse, hparts, List.foldlM_cons,
      addPart_known (by decide) (by decide) (by decide) (by decide) hstone]
    show List.foldlM _ (Bucket.empty.add ⟨⟨1, 0⟩, none⟩ 3) _ >>= _ = _
    rw [List.foldlM_cons, addPart_known (by decide) (by decide) (by decide) (by decide) hlog]
    rfl
  exact .parse hparse

/-- The last residue of four belongs to the logs, and it alone. -/
theorem picks_follow_weights_of_mix :
    Bucket.mix.Made ∧ (positionHash 1 0 2).toNat % Bucket.mix.total = 3 ∧
    Bucket.mix.draw (positionHash 1 0 2).toNat = .ok 1 ∧
    Bucket.mix.pick 1 0 2 = ⟨⟨2, 1⟩, none⟩ ∧
    ((Finset.range 4).filter fun n => Bucket.place Bucket.mix.entries n = .ok 1).card = 1 := by
  obtain ⟨-, hpicks, hcard⟩ := picks_follow_weights Bucket.mix_made
  have hresidue : (positionHash 1 0 2).toNat % Bucket.mix.total = 3 := by decide
  obtain ⟨i, -, hunique, hdraw, hvoxel⟩ := hpicks 1 0 2
  obtain rfl : 1 = i := hunique 1 ⟨_, rfl, by rw [hresidue]; decide, by rw [hresidue]; decide⟩
  exact ⟨Bucket.mix_made, hresidue, hdraw, (Option.some.inj hvoxel).symm, hcard 1 _ rfl⟩

end PlotGrid
