import Mathlib.Algebra.BigOperators.Group.List.Lemmas
import Mathlib.Algebra.GroupWithZero.Nat
import Mathlib.Data.List.Induction
import PlotGrid.Service.Tally

/-!
# Order of results

Results are counted in the order in which they come in, and the table of blocks lists its entries
in an order of its own. Neither is seen in the tally: each number is a sum over the results, and the
order of the blocks is strict, so only one list has the counted blocks in it.

- `Histogram.Before`, `Histogram.eq_of_before`: a strict order leaves one list.
- `Histogram.getElem?_foldl_count`, `Histogram.mem_ofIds_iff`: what is counted.
- `Histogram.sum_ofIds`: no occurrence is lost or counted twice.
- `Counts.summary`, `Counts.add_summary`, `Counts.foldl_add_eq`: one more result, and all of them.
- `Tally.ofResults_perm`: the order of results does not matter.
-/

namespace PlotGrid

/-! ## Histograms -/

namespace Histogram

variable {ids ids' : List BlockId} {id : BlockId} {n : Nat} {counts : Std.HashMap BlockId Nat}

/-- One entry stands before another: it has the greater count, or of equal counts the block with the
lesser number. -/
def Before (a b : BlockId × Nat) : Prop :=
  b.2 < a.2 ∨ a.2 = b.2 ∧ a.1 < b.1

theorem Before.asymm {a b : BlockId × Nat} (h : Before a b) (h' : Before b a) : a = b := by
  simp only [Before, UInt16.lt_iff_toNat_lt] at h h'
  omega

theorem Before.irrefl (a : BlockId × Nat) : ¬ Before a a := by
  simp [Before]

/-- **Entries in order are told by what they are.** -/
theorem eq_of_before {h h' : Histogram} (hsorted : h.Pairwise Before)
    (hsorted' : h'.Pairwise Before) (hmem : ∀ e, e ∈ h ↔ e ∈ h') : h = h' := by
  have hnodup {l : Histogram} (hl : l.Pairwise Before) : l.Nodup :=
    hl.imp fun {a b} hab => by
      rintro rfl
      exact Before.irrefl a hab
  exact ((List.perm_ext_iff_of_nodup (hnodup hsorted) (hnodup hsorted')).mpr hmem).eq_of_pairwise
    (fun _ _ _ _ hab hba => hab.asymm hba) hsorted hsorted'

theorem precedes_trans (a b c : BlockId × Nat) (h : precedes a b = true)
    (h' : precedes b c = true) : precedes a c = true := by
  simp only [precedes, Bool.or_eq_true, Bool.and_eq_true, decide_eq_true_eq, beq_iff_eq,
    UInt16.le_iff_toNat_le] at h h' ⊢
  omega

theorem precedes_total (a b : BlockId × Nat) : (precedes a b || precedes b a) = true := by
  simp only [precedes, Bool.or_eq_true, Bool.and_eq_true, decide_eq_true_eq, beq_iff_eq,
    UInt16.le_iff_toNat_le]
  omega

theorem before_of_precedes {a b : BlockId × Nat} (h : precedes a b = true) (hne : a.1 ≠ b.1) :
    Before a b := by
  rw [ne_eq, ← UInt16.toNat_inj] at hne
  simp only [precedes, Bool.or_eq_true, Bool.and_eq_true, decide_eq_true_eq, beq_iff_eq,
    UInt16.le_iff_toNat_le] at h
  rw [Before, UInt16.lt_iff_toNat_lt]
  omega

/-- Each block is listed once, whatever order the table has. -/
theorem pairwise_ne_ofCounts (counts : Std.HashMap BlockId Nat) :
    (ofCounts counts).Pairwise fun a b => a.1 ≠ b.1 := by
  have hkeys : counts.toList.Pairwise fun a b => a.1 ≠ b.1 :=
    Std.HashMap.distinct_keys_toList.imp fun h => by simpa using h
  exact ((List.mergeSort_perm counts.toList precedes).pairwise_iff Ne.symm).mpr hkeys

theorem nodup_ofCounts (counts : Std.HashMap BlockId Nat) :
    ((ofCounts counts).map Prod.fst).Nodup :=
  List.pairwise_map.mpr (pairwise_ne_ofCounts counts)

theorem pairwise_ofCounts (counts : Std.HashMap BlockId Nat) :
    (ofCounts counts).Pairwise Before := by
  have hsorted := List.pairwise_mergeSort precedes_trans precedes_total counts.toList
  exact (hsorted.and (pairwise_ne_ofCounts counts)).imp fun h => before_of_precedes h.1 h.2

theorem getElem?_count {a : BlockId} : (count counts a)[id]? =
    if a = id then some (counts[id]?.getD 0 + 1) else counts[id]? := by
  rw [count, Std.HashMap.getElem?_alter]
  by_cases ha : a = id
  · subst ha
    rw [if_pos rfl, if_pos (beq_self_eq_true a)]
  · rw [if_neg ha, if_neg (by simpa using ha)]

/-- What is counted for a block adds up. -/
theorem getElem?_foldl_count : (ids.foldl count counts)[id]? =
    if id ∈ ids then some (counts[id]?.getD 0 + ids.count id) else counts[id]? := by
  induction ids generalizing counts with
  | nil => rfl
  | cons a rest ih =>
    rw [List.foldl_cons, ih, getElem?_count]
    by_cases ha : a = id
    · subst ha
      rw [if_pos rfl, if_pos List.mem_cons_self, List.count_cons_self, Option.getD_some]
      split
      · rw [Nat.add_right_comm, Nat.add_assoc]
      · rename_i hnot
        rw [List.count_eq_zero_of_not_mem hnot, Nat.zero_add]
    · rw [if_neg ha, List.count_cons_of_ne ha]
      have hmem : id ∈ a :: rest ↔ id ∈ rest := by simp [Ne.symm ha]
      simp only [hmem]

/-- The histogram of a list of occurrences. -/
def ofIds (ids : List BlockId) : Histogram :=
  ofCounts (ids.foldl count ∅)

/-- **A block that occurs is listed with the number of its occurrences.** -/
theorem mem_ofIds_iff : (id, n) ∈ ofIds ids ↔ id ∈ ids ∧ n = ids.count id := by
  rw [ofIds, ofCounts, List.mem_mergeSort, Std.HashMap.mem_toList_iff_getElem?_eq_some,
    getElem?_foldl_count, Std.HashMap.getElem?_empty, Option.getD_none, Nat.zero_add]
  split
  · rename_i hmem
    rw [Option.some.injEq, eq_comm, and_iff_right hmem]
  · rename_i hnot
    exact iff_of_false (fun h => nomatch h) fun h => hnot h.1

theorem ofIds_perm (h : ids.Perm ids') : ofIds ids = ofIds ids' := by
  refine eq_of_before (pairwise_ofCounts _) (pairwise_ofCounts _) fun ⟨id, n⟩ => ?_
  rw [mem_ofIds_iff, mem_ofIds_iff, h.mem_iff, h.count_eq]

/-- **All occurrences are counted, each once.** -/
theorem sum_ofIds (ids : List BlockId) : ((ofIds ids).map Prod.snd).sum = ids.length := by
  have hcounts : (ofIds ids).map Prod.snd = ((ofIds ids).map Prod.fst).map (ids.count ·) := by
    rw [List.map_map]
    refine List.map_congr_left fun e he => ?_
    exact (mem_ofIds_iff.mp he).2
  have hblocks : ((ofIds ids).map Prod.fst).Perm ids.dedup := by
    refine (List.perm_ext_iff_of_nodup (nodup_ofCounts _) ids.nodup_dedup).mpr fun id => ?_
    rw [List.mem_dedup, List.mem_map]
    constructor
    · rintro ⟨e, he, rfl⟩
      exact (mem_ofIds_iff.mp he).1
    · intro hid
      exact ⟨(id, ids.count id), mem_ofIds_iff.mpr ⟨hid, rfl⟩, rfl⟩
  rw [hcounts, (hblocks.map _).sum_eq, List.sum_map_count_dedup_eq_length]

end Histogram

/-! ## Results -/

namespace JobResult

/-- The buffer of a chunk that was generated in full. -/
def generated? (r : JobResult) : Option Buffer :=
  match r.outcome with
  | .generated b => some b
  | _ => none

/-- The hooks kept the generator from running. -/
def isSkipped (r : JobResult) : Bool :=
  match r.outcome with
  | .skipped _ => true
  | _ => false

end JobResult

/-- The block of each voxel. -/
def Buffer.blockIds (b : Buffer) : List BlockId :=
  b.voxelList.map fun cell => cell.2.2.2.block.id

/-- The block of each voxel that a first pass left. -/
def ChunkOutcome.blockIds : ChunkOutcome → List BlockId
  | .generated b => b.blockIds
  | _ => []

/-- The block of each voxel that the first passes left. -/
def Tally.occurrences (results : List JobResult) : List BlockId :=
  results.flatMap fun r => r.outcome.blockIds

namespace Counts

/-- What the counts of results are in the end. -/
def summary (results : List JobResult) : Counts where
  generated := (results.filterMap JobResult.generated?).length
  unmanaged := results.countP fun r => r.outcome.isUnmanaged
  skipped := results.countP JobResult.isSkipped
  populated := (results.filterMap JobResult.populated).length
  voxels := (Tally.occurrences results).length
  entityVoxels := ((results.filterMap JobResult.populated).map fun b => b.voxelList.length).sum
  layers := ((results.filterMap JobResult.generated?).map Buffer.layerCount).sum
  sections := ((results.filterMap JobResult.generated?).map Buffer.sectionCount).sum
  blocks := (Tally.occurrences results).foldl Histogram.count ∅

/-- A loop over voxels counts each of them and nothing else. -/
theorem foldl_addVoxel (c : Counts) (cells : List (Nat × Int × Nat × Voxel)) :
    cells.foldl (fun c cell => c.addVoxel cell.2.2.2) c =
      { c with
        voxels := c.voxels + cells.length
        blocks := (cells.map fun cell => cell.2.2.2.block.id).foldl Histogram.count c.blocks } := by
  induction cells generalizing c with
  | nil => rfl
  | cons cell rest ih =>
    rw [List.foldl_cons, ih, List.length_cons, Nat.add_comm rest.length, ← Nat.add_assoc]
    rfl

theorem addBuffer_eq (c : Counts) (b : Buffer) : c.addBuffer b =
    { c with
      voxels := c.voxels + b.blockIds.length
      layers := c.layers + b.layerCount
      sections := c.sections + b.sectionCount
      blocks := b.blockIds.foldl Histogram.count c.blocks } := by
  rw [addBuffer, foldl_addVoxel, Buffer.blockIds, List.length_map]

/-- **One more result** adds its part to each number. -/
theorem add_summary (results : List JobResult) (r : JobResult) :
    (summary results).add r = summary (results ++ [r]) := by
  obtain ⟨job, outcome, populated⟩ := r
  cases outcome <;> cases populated <;>
    simp [summary, add, addOutcome, addPopulated, addBuffer_eq, Tally.occurrences,
      JobResult.generated?, JobResult.isSkipped, ChunkOutcome.isUnmanaged, ChunkOutcome.blockIds,
      List.filterMap_append, List.filterMap_cons]

/-- **All results** give the sums over them. -/
theorem foldl_add_eq (results : List JobResult) : results.foldl add {} = summary results := by
  induction results using List.reverseRecOn with
  | nil => rfl
  | append_singleton results r ih =>
    rw [List.foldl_append, ih]
    exact add_summary results r

end Counts

/-! ## Tallies -/

namespace Tally

variable {results results' : List JobResult}

theorem ofResults_eq (results : List JobResult) :
    ofResults results = (Counts.summary results).tally := by
  rw [ofResults, Counts.foldl_add_eq]

/-- **The order in which results come in is not seen in the tally.** -/
theorem ofResults_perm (h : results.Perm results') : ofResults results = ofResults results' := by
  have hfirst := h.filterMap JobResult.generated?
  have hsecond := h.filterMap JobResult.populated
  have hids : (occurrences results).Perm (occurrences results') := h.flatMap_right _
  rw [ofResults_eq, ofResults_eq]
  simp only [Counts.tally, Counts.summary, hfirst.length_eq, hsecond.length_eq, h.countP_eq,
    hids.length_eq, (hfirst.map _).sum_eq, (hsecond.map _).sum_eq, Tally.mk.injEq, true_and]
  exact Histogram.ofIds_perm hids

/-- Each result is counted as one kind of outcome. -/
theorem outcomes_ofResults (results : List JobResult) :
    (ofResults results).generated + (ofResults results).unmanaged + (ofResults results).skipped =
      results.length := by
  rw [ofResults_eq]
  show (results.filterMap JobResult.generated?).length +
    results.countP (fun r => r.outcome.isUnmanaged) + results.countP JobResult.isSkipped = _
  induction results with
  | nil => rfl
  | cons r rest ih =>
    obtain ⟨job, outcome, populated⟩ := r
    rw [List.countP_cons, List.countP_cons, List.filterMap_cons, List.length_cons, ← ih]
    cases outcome <;>
      simp only [JobResult.generated?, JobResult.isSkipped, ChunkOutcome.isUnmanaged,
        List.length_cons, if_true, if_false, Bool.false_eq_true] <;> omega

theorem blocks_ofResults (results : List JobResult) :
    (ofResults results).blocks = .ofIds (occurrences results) := by
  rw [ofResults_eq]
  rfl

theorem voxels_ofResults (results : List JobResult) :
    (ofResults results).voxels = ((ofResults results).blocks.map Prod.snd).sum := by
  rw [blocks_ofResults, Histogram.sum_ofIds, ofResults_eq]
  rfl

end Tally

end PlotGrid
