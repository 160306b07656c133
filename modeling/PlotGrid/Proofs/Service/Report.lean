import Mathlib.Data.Set.List
import PlotGrid.Proofs.Service.Addresses
import PlotGrid.Proofs.Service.Batch
import PlotGrid.Proofs.Service.Lines
import PlotGrid.Proofs.Service.Tally

/-!
# Reports about a rectangle of chunks

The lines that are printed about a rectangle follow from the areas, the world and the rectangle.
Neither the number of workers nor the order of their steps is seen in them, and it is all the same
which two opposite corners stand for the rectangle.

- `length_chunksBetween`, `chunksBetween_comm`, `chunksBetween_mirror`: rectangles and corners.
- `CommandLine.report`, `CommandLine.execute_generate`: the command is a report after loading.
- `CommandLine.report_eq_ok_iff`: what is printed.
- `Tally.Describes`: a tally that fits a rectangle.
- `CommandLine.Loaded.Prints`: lines that show such a tally.
- `reports_ignore_schedule`: all that is known of a report.
-/

namespace PlotGrid

/-! ## Rectangles -/

theorem Coord.length_span (lo hi : Int) : (span lo hi).length = (hi + 1 - lo).toNat := by
  rw [span, List.length_map, List.length_range]

section Rectangles

variable {a b c : Int × Int}

theorem mem_chunksBetween : c ∈ chunksBetween a b ↔
    (min a.1 b.1 ≤ c.1 ∧ c.1 ≤ max a.1 b.1) ∧ min a.2 b.2 ≤ c.2 ∧ c.2 ≤ max a.2 b.2 := by
  simp only [chunksBetween, List.mem_flatMap, List.mem_map, Coord.mem_span]
  constructor
  · rintro ⟨cx, hcx, cz, hcz, rfl⟩
    exact ⟨hcx, hcz⟩
  · exact fun ⟨hcx, hcz⟩ => ⟨c.1, hcx, c.2, hcz, rfl⟩

/-- **The number of chunks of a rectangle**, bounds included. -/
theorem length_chunksBetween (a b : Int × Int) : (chunksBetween a b).length =
    ((b.1 - a.1).natAbs + 1) * ((b.2 - a.2).natAbs + 1) := by
  have hedge (m n : Int) : (Coord.span (min m n) (max m n)).length = (n - m).natAbs + 1 := by
    rw [Coord.length_span]
    omega
  simp only [chunksBetween, List.length_flatMap, List.length_map, List.map_const', hedge,
    List.sum_replicate_nat]

/-- Two corners can be exchanged. -/
theorem chunksBetween_comm (a b : Int × Int) : chunksBetween b a = chunksBetween a b := by
  simp only [chunksBetween, min_comm, max_comm]

/-- Two corners can be mirrored. -/
theorem chunksBetween_mirror (a b : Int × Int) :
    chunksBetween (b.1, a.2) (a.1, b.2) = chunksBetween a b := by
  simp only [chunksBetween, min_comm b.1, max_comm b.1]

end Rectangles

/-! ## Tallies of a rectangle -/

namespace Service

/-- The block of each voxel that the first pass leaves in a chunk. -/
def blockIds (s : Service) (world : World) (c : Int × Int) : List BlockId :=
  match (s.generate world c.1 c.2).exec.1 with
  | .ok outcome => outcome.blockIds
  | .error _ => []

theorem occurrences_of_answers {s : Service} {world : World} {jobs : List Job}
    {results : List JobResult} (h : results.map Except.ok = jobs.map (s.answer world)) :
    Tally.occurrences results = jobs.flatMap fun job => s.blockIds world (job.cx, job.cz) := by
  induction jobs generalizing results with
  | nil =>
    rw [List.map_eq_nil_iff.mp h]
    rfl
  | cons job rest ih =>
    obtain ⟨r, results, rfl, hr, hrest⟩ := List.map_eq_cons_iff.mp h
    obtain ⟨rfl, hanswers⟩ := answer_eq_ok_iff.mp hr.symm
    rw [List.flatMap_cons, ← ih hrest, blockIds, hanswers.first]
    rfl

end Service

theorem mem_chunksBetween_of_job {a b : Int × Int} {populate : Bool} {job : Job}
    (h : job ∈ jobsBetween a b populate) : (job.cx, job.cz) ∈ chunksBetween a b := by
  obtain ⟨⟨c, id⟩, hc, rfl⟩ := List.mem_map.mp h
  exact List.fst_mem_of_mem_zipIdx hc

theorem flatMap_jobsBetween {β : Type} (a b : Int × Int) (populate : Bool)
    (f : Int × Int → List β) :
    (jobsBetween a b populate).flatMap (fun job => f (job.cx, job.cz)) =
      (chunksBetween a b).flatMap f := by
  rw [jobsBetween, List.flatMap_map]
  show (chunksBetween a b).zipIdx.flatMap (fun e => f e.1) = _
  rw [← List.flatMap_map, List.zipIdx_map_fst]

/-- A tally fits the chunks between two corners. -/
structure Tally.Describes (t : Tally) (s : Service) (world : World) (a b : Int × Int) : Prop where
  /-- Each chunk of the rectangle is counted as one kind of outcome. -/
  outcomes : t.generated + t.unmanaged + t.skipped =
    ((b.1 - a.1).natAbs + 1) * ((b.2 - a.2).natAbs + 1)
  /-- The voxels are those of the histogram. -/
  voxels : t.voxels = (t.blocks.map Prod.snd).sum
  /-- The histogram lists the blocks that the first pass leaves, each with the number of its
  voxels. -/
  counted : ∀ id n, (id, n) ∈ t.blocks ↔
    id ∈ (chunksBetween a b).flatMap (s.blockIds world) ∧
      n = ((chunksBetween a b).flatMap (s.blockIds world)).count id
  /-- No block is listed twice. -/
  once : (t.blocks.map Prod.fst).Nodup
  /-- Greater counts come first, and of equal counts the block with the lesser number. -/
  ordered : t.blocks.Pairwise Histogram.Before

theorem Tally.describes_of_answers {s : Service} {world : World} {a b : Int × Int}
    {populate : Bool} {results : List JobResult}
    (h : results.map Except.ok = (jobsBetween a b populate).map (s.answer world)) :
    (ofResults results).Describes s world a b where
  outcomes := by
    rw [outcomes_ofResults, ← Service.length_eq_of_answers h, jobsBetween, List.length_map,
      List.length_zipIdx, length_chunksBetween]
  voxels := voxels_ofResults results
  counted := by
    intro id n
    rw [blocks_ofResults, Histogram.mem_ofIds_iff, Service.occurrences_of_answers h,
      flatMap_jobsBetween]
  once := by
    rw [blocks_ofResults]
    exact Histogram.nodup_ofCounts _
  ordered := by
    rw [blocks_ofResults]
    exact Histogram.pairwise_ofCounts _

/-! ## The command -/

namespace CommandLine

/-- The service of a run. -/
def Loaded.service (l : Loaded) : Service :=
  { atlas := l.atlas }

/-- What is printed about the results of a batch. -/
def Loaded.printout (l : Loaded) (results : List JobResult) : Printout :=
  ⟨tallyLines l.registry (.ofResults results), none⟩

/-- What the command for a rectangle does when everything is loaded. -/
def report (l : Loaded) (world : World) (a b : Int × Int) (workers : Nat) (populate : Bool) :
    Logged Halt Printout := do
  let tally ← guarded .lost (generateTally l world a b workers populate)
  return ⟨tallyLines l.registry tally, none⟩

/-- **The command is a report after loading.** -/
theorem execute_generate (tree : FileTree) (environment : Option String) (i : Invocation)
    (a b : Int × Int) (workers : Nat) (populate : Bool) :
    execute tree environment { i with command := .generate a b workers populate } =
      load tree environment i >>= fun l => report l i.world a b workers populate :=
  rfl

/-- **What is printed about a rectangle**: two lines of counts that fit it, and then one row for
each block that its chunks have, from the most frequent block on. -/
def Loaded.Prints (l : Loaded) (world : World) (a b : Int × Int) (printout : Printout) : Prop :=
  printout.halt = none ∧
    ∃ t : Tally, t.Describes l.service world a b ∧ t.ShownBy l.registry printout.lines

variable {l : Loaded} {world : World} {a b a' b' : Int × Int} {workers : Nat} {populate : Bool}

theorem steady_generateTally (l : Loaded) (world : World) (a b : Int × Int) (workers : Nat)
    (populate : Bool) : (generateTally l world a b workers populate).Steady :=
  (l.service.steady_run world workers _).bind fun _ => .ok _

theorem generateTally_eq_ok_iff {t : Tally} :
    (generateTally l world a b workers populate).exec.1 = .ok t ↔
      ∃ results, results.map Except.ok = (jobsBetween a b populate).map (l.service.answer world) ∧
        t = .ofResults results := by
  have hbind := (l.service.steady_run world workers (jobsBetween a b populate)).bind_eq_ok_iff
    (f := fun done => pure (.ofResults done.1)) (b := t) fun _ => .ok _
  refine hbind.trans ?_
  constructor
  · rintro ⟨⟨results, pool⟩, hrun, ht⟩
    exact ⟨results, (Service.run_eq_ok_iff.mp hrun).1, (Except.ok.inj ht).symm⟩
  · rintro ⟨results, hresults, rfl⟩
    exact ⟨(results, .idle), Service.run_eq_ok_iff.mpr ⟨hresults, rfl⟩, rfl⟩

theorem yields_guarded {α : Type} {m : Logged Fault α} {r : Checked α} (h : m.Yields r)
    (wrap : Fault → Halt) : (guarded wrap m).Yields (r.mapError wrap) := by
  intro notices
  obtain ⟨notices', hrun⟩ := h notices
  refine ⟨notices', ?_⟩
  show ((m.run notices).1.mapError wrap, (m.run notices).2) = _
  rw [hrun]

theorem guarded_eq_ok_iff {α : Type} {m : Logged Fault α} {x : α} {wrap : Fault → Halt}
    (h : m.Steady) : (guarded wrap m).exec.1 = .ok x ↔ m.exec.1 = .ok x := by
  rw [(yields_guarded h.yields wrap).exec_eq]
  cases m.exec.1 <;> simp [Except.mapError]

/-- **What is printed** is told by the answers to the jobs for the rectangle. -/
theorem report_eq_ok_iff {printout : Printout} :
    (report l world a b workers populate).exec.1 = .ok printout ↔
      ∃ results, results.map Except.ok = (jobsBetween a b populate).map (l.service.answer world) ∧
        printout = l.printout results := by
  have hsteady := steady_generateTally l world a b workers populate
  have hguarded : (guarded .lost (generateTally l world a b workers populate)).Steady :=
    ⟨_, yields_guarded hsteady.yields .lost⟩
  rw [report, hguarded.bind_eq_ok_iff fun _ => .ok _]
  constructor
  · rintro ⟨t, ht, hprinted⟩
    obtain ⟨results, hresults, rfl⟩ :=
      generateTally_eq_ok_iff.mp ((guarded_eq_ok_iff hsteady).mp ht)
    exact ⟨results, hresults, (Except.ok.inj hprinted).symm⟩
  · rintro ⟨results, hresults, rfl⟩
    exact ⟨_, (guarded_eq_ok_iff hsteady).mpr
      (generateTally_eq_ok_iff.mpr ⟨results, hresults, rfl⟩), rfl⟩

theorem report_congr (h : chunksBetween a' b' = chunksBetween a b) :
    report l world a' b' workers populate = report l world a b workers populate := by
  rw [report, generateTally, jobsBetween, h]
  rfl

/-! ## All reports -/

/-- A buffer can be had for the chunks that are not the last of an axis. -/
theorem exists_forChunk? {world : World} {c : Int × Int}
    (hx : -134217728 ≤ c.1 ∧ c.1 ≤ 134217726) (hz : -134217728 ≤ c.2 ∧ c.2 ≤ 134217726)
    (hy : world.minHeight ≤ world.maxHeight)
    (hheight : Coord.InRange (world.maxHeight - world.minHeight + 1)) (track : Bool) :
    ∃ buffer, Buffer.forChunk? c.1 c.2 world.minHeight world.maxHeight track = .ok buffer := by
  have hcolumn (n : Int) (hn : -134217728 ≤ n ∧ n ≤ 134217726) :
      Coord.InRange (16 * n) ∧ 16 * n < 2147483632 ∧ 16 * n / 16 = n := by
    rw [Coord.inRange_iff]
    omega
  obtain ⟨hrange, hlt, hchunk⟩ := hcolumn c.1 hx
  obtain ⟨hrange', hlt', hchunk'⟩ := hcolumn c.2 hz
  obtain ⟨buffer, hbuffer, -⟩ := Buffer.exists_addresses hrange hrange' hlt hlt' hy hheight track
  rw [hchunk, hchunk'] at hbuffer
  exact ⟨buffer, hbuffer⟩

/-- What is known of the report about the chunks between two corners. -/
structure Loaded.Reports (l : Loaded) (world : World) (a b : Int × Int) (populate : Bool) :
    Prop where
  /-- Whatever number of workers brings the results, and in whatever order, they are reported as the
  command reports them with any number of workers. -/
  schedule : ∀ workers workers' results,
    Crew.WorksOff l.service world workers (jobsBetween a b populate) results →
      (report l world a b workers' populate).exec.1 = .ok (l.printout results)
  /-- The numbers fit the rectangle, and the lines show them. -/
  describes : ∀ workers results,
    Crew.WorksOff l.service world workers (jobsBetween a b populate) results →
      (Tally.ofResults results).Describes l.service world a b ∧
        (Tally.ofResults results).ShownBy l.registry (l.printout results).lines
  /-- So whatever is printed shows numbers that fit the rectangle. -/
  lines : ∀ workers printout, (report l world a b workers populate).exec.1 = .ok printout →
    l.Prints world a b printout
  /-- A report is about the results of a schedule. -/
  worked : ∀ workers printout, (report l world a b workers populate).exec.1 = .ok printout →
    ∃ results, Crew.WorksOff l.service world workers (jobsBetween a b populate) results ∧
      printout = l.printout results
  /-- Opposite corners can be exchanged. -/
  exchanged : ∀ workers, report l world b a workers populate = report l world a b workers populate
  /-- The other two corners stand for the same rectangle. -/
  mirrored : ∀ workers,
    report l world (b.1, a.2) (a.1, b.2) workers populate = report l world a b workers populate ∧
      report l world (a.1, b.2) (b.1, a.2) workers populate = report l world a b workers populate
  /-- There is a report about chunks that are not the last of an axis. -/
  printed : world.minHeight ≤ world.maxHeight →
    Coord.InRange (world.maxHeight - world.minHeight + 1) →
      (∀ n ∈ [a.1, a.2, b.1, b.2], -134217728 ≤ n ∧ n ≤ 134217726) →
        ∀ workers, ∃ printout, (report l world a b workers populate).exec.1 = .ok printout

theorem report_of_worksOff {workers' : Nat} {results : List JobResult}
    (h : Crew.WorksOff l.service world workers (jobsBetween a b populate) results) :
    (report l world a b workers' populate).exec.1 = .ok (l.printout results) := by
  obtain ⟨ordered, hrun, hperm⟩ := h.exists_run workers'
  refine report_eq_ok_iff.mpr ⟨ordered, (Service.run_eq_ok_iff.mp hrun).1, ?_⟩
  rw [Loaded.printout, Loaded.printout, Tally.ofResults_perm hperm]

theorem describes_of_worksOff {results : List JobResult}
    (h : Crew.WorksOff l.service world workers (jobsBetween a b populate) results) :
    (Tally.ofResults results).Describes l.service world a b := by
  obtain ⟨ordered, hrun, hperm⟩ := h.exists_run workers
  rw [← Tally.ofResults_perm hperm]
  exact Tally.describes_of_answers (Service.run_eq_ok_iff.mp hrun).1

theorem worksOff_of_report {printout : Printout}
    (h : (report l world a b workers populate).exec.1 = .ok printout) :
    ∃ results, Crew.WorksOff l.service world workers (jobsBetween a b populate) results ∧
      printout = l.printout results := by
  obtain ⟨results, hresults, rfl⟩ := report_eq_ok_iff.mp h
  have hrun : (l.service.run world workers (jobsBetween a b populate)).exec.1 =
      .ok (results, .idle) := Service.run_eq_ok_iff.mpr ⟨hresults, rfl⟩
  exact ⟨results, Crew.worksOff_of_run hrun, rfl⟩

theorem prints_of_report {printout : Printout}
    (h : (report l world a b workers populate).exec.1 = .ok printout) :
    l.Prints world a b printout := by
  obtain ⟨results, hworked, rfl⟩ := worksOff_of_report h
  exact ⟨rfl, _, describes_of_worksOff hworked, Tally.shownBy_tallyLines _ _⟩

theorem exists_report (hy : world.minHeight ≤ world.maxHeight)
    (hheight : Coord.InRange (world.maxHeight - world.minHeight + 1))
    (hcorners : ∀ n ∈ [a.1, a.2, b.1, b.2], -134217728 ≤ n ∧ n ≤ 134217726) (workers : Nat) :
    ∃ printout, (report l world a b workers populate).exec.1 = .ok printout := by
  simp only [List.forall_mem_cons, List.not_mem_nil, false_implies, implies_true, and_true]
    at hcorners
  have hbuffer (c : Int × Int) (hc : c ∈ chunksBetween a b) (track : Bool) : ∃ buffer,
      Buffer.forChunk? c.1 c.2 world.minHeight world.maxHeight track = .ok buffer := by
    rw [mem_chunksBetween] at hc
    exact exists_forChunk? (by omega) (by omega) hy hheight track
  -- every job has an answer, so there is a list of them
  have hanswers : (jobsBetween a b populate).map (l.service.answer world) ∈
      Set.range (List.map Except.ok) := by
    rw [Set.range_list_map]
    intro answer hanswer
    obtain ⟨job, hjob, rfl⟩ := List.mem_map.mp hanswer
    obtain ⟨r, rfl, hr⟩ := Service.exists_answers (s := l.service) world rfl job
      (hbuffer _ (mem_chunksBetween_of_job hjob))
    exact ⟨r, (Service.answer_eq_ok_iff.mpr ⟨rfl, hr⟩).symm⟩
  obtain ⟨results, hresults⟩ := hanswers
  exact ⟨_, report_eq_ok_iff.mpr ⟨results, hresults, rfl⟩⟩

end CommandLine

open CommandLine in
/-- **A report does not depend on the schedule**: on the number of workers, on the order in which
their results come in, or on the corners that stand for a rectangle. Its lines show the counts of
the rectangle, and then each block that occurs in one row. -/
theorem reports_ignore_schedule (world : World) (a b : Int × Int) (populate : Bool) :
    (∀ tree environment (i : Invocation) workers,
      execute tree environment { i with world, command := .generate a b workers populate } =
        load tree environment { i with world } >>= fun l =>
          report l world a b workers populate) ∧
      (∀ results results' : List JobResult, results.Perm results' →
        Tally.ofResults results = .ofResults results') ∧
      ∀ l : Loaded, l.Reports world a b populate := by
  refine ⟨?_, fun _ _ => Tally.ofResults_perm, fun l => ?_⟩
  · intro tree environment i workers
    exact execute_generate tree environment { i with world } a b workers populate
  · exact {
      schedule := fun _ _ _ => report_of_worksOff
      describes := fun _ _ h => ⟨describes_of_worksOff h, Tally.shownBy_tallyLines _ _⟩
      lines := fun _ _ => prints_of_report
      worked := fun _ _ => worksOff_of_report
      exchanged := fun _ => report_congr (chunksBetween_comm a b)
      mirrored := fun _ => ⟨report_congr (chunksBetween_mirror a b),
        report_congr ((chunksBetween_comm _ _).trans (chunksBetween_mirror a b))⟩
      printed := exists_report }

/-- A run with a small cell that owns all chunks. -/
def CommandLine.Loaded.small : Loaded :=
  ⟨.empty "", .small, #[.small], ""⟩

open CommandLine in
/-- The report about two chunks when the second of two workers is done first. -/
theorem reports_ignore_schedule_of_small : ∃ r r' : JobResult,
    r.job = ⟨0, 0, 0, true⟩ ∧ r'.job = ⟨1, 0, 1, true⟩ ∧
      Crew.WorksOff Loaded.small.service .low 2 (jobsBetween (0, 0) (1, 0) true) [r', r] ∧
      Tally.ofResults [r', r] = .ofResults [r, r'] ∧
      (Tally.ofResults [r', r]).Describes Loaded.small.service .low (0, 0) (1, 0) ∧
      (Tally.ofResults [r', r]).ShownBy .small (Loaded.small.printout [r', r]).lines ∧
      (report .small .low (0, 0) (1, 0) 1 true).exec.1 = .ok (Loaded.small.printout [r', r]) ∧
      (report .small .low (1, 0) (0, 0) 1 true).exec.1 = .ok (Loaded.small.printout [r', r]) := by
  have hanswers (job : Job)
      (hbuffer : ∀ track, ∃ b, Buffer.forChunk? job.cx job.cz 0 7 track = .ok b) :
      ∃ r, r.job = job ∧ Loaded.small.service.Answers .low r :=
    Service.exists_answers .low rfl job hbuffer
  obtain ⟨r, hjob, hr⟩ := hanswers ⟨0, 0, 0, true⟩ fun _ => ⟨_, rfl⟩
  obtain ⟨r', hjob', hr'⟩ := hanswers ⟨1, 0, 1, true⟩ fun _ => ⟨_, rfl⟩
  have hworked := Crew.worksOff_overtaken hr hr'
  rw [hjob, hjob'] at hworked
  obtain ⟨-, hpermuted, hreports⟩ := reports_ignore_schedule .low (0, 0) (1, 0) true
  have hprinted := (hreports .small).schedule 2 1 [r', r] hworked
  obtain ⟨hdescribes, hshown⟩ := (hreports .small).describes 2 _ hworked
  refine ⟨r, r', hjob, hjob', hworked, hpermuted _ _ (.swap r r' []), hdescribes, hshown, hprinted,
    ?_⟩
  rw [(hreports .small).exchanged]
  exact hprinted

end PlotGrid
