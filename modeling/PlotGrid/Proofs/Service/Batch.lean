import Mathlib.Data.List.Perm.Basic
import PlotGrid.Proofs.Service.Schedule

/-!
# Batches without publications

When nothing is published, what becomes of a job depends on the job alone. A schedule only decides
in which order the results of a batch are received, and it is known in which order one worker hands
them in.

- `Service.answer`: what becomes of a job.
- `Service.run_eq_ok_iff`: one worker gives the answers in the order of the jobs.
- `Crew.WorksOff`: a crew works off a batch, in any order of its steps.
- `Crew.WorksOff.perm`: the results are the answers in some order.
- `Crew.WorksOff.exists_run`, `Crew.worksOff_of_run`: one worker and a crew have the same results.
-/

namespace PlotGrid

namespace Service

variable {s : Service} {world : World} {job : Job} {jobs : List Job} {r : JobResult}
  {results done : List JobResult} {p : Pool}

/-- What becomes of a job. -/
def answer (s : Service) (world : World) (job : Job) : Checked JobResult :=
  (s.process world job).exec.1

theorem answer_eq_ok_iff : s.answer world job = .ok r ↔ r.job = job ∧ s.Answers world r := by
  constructor
  · intro h
    obtain ⟨rfl, -⟩ := process_eq_ok_iff.mp h
    exact ⟨rfl, process_eq_ok_iff_answers.mp h⟩
  · rintro ⟨rfl, h⟩
    exact process_eq_ok_iff_answers.mpr h

/-- There is one answer for each job. -/
theorem length_eq_of_answers (h : results.map Except.ok = jobs.map (s.answer world)) :
    jobs.length = results.length := by
  rw [← List.length_map (s.answer world), ← h, List.length_map]

/-! ## One worker -/

theorem foldl_submit (jobs : List Job) (p : Pool) :
    jobs.foldl Pool.submit p = { p with waiting := p.waiting ++ jobs } := by
  induction jobs generalizing p with
  | nil => simp
  | cons job rest ih =>
    rw [List.foldl_cons, ih]
    simp [Pool.submit]

theorem foldl_submit_idle (jobs : List Job) : jobs.foldl Pool.submit .idle = ⟨jobs, [], []⟩ :=
  foldl_submit jobs .idle

theorem workOne_eq_ok_iff : (s.workOne world ⟨job :: jobs, [], done⟩).exec.1 = .ok p ↔
    ∃ r, s.answer world job = .ok r ∧ p = ⟨jobs, [], done ++ [r]⟩ := by
  rw [workOne, (s.steady_process world job).bind_eq_ok_iff fun _ => .ok _]
  refine exists_congr fun r => and_congr_right fun hr => ?_
  obtain ⟨rfl, -⟩ := answer_eq_ok_iff.mp hr
  rw [(Logged.Yields.ok _).exec_eq, Except.ok.injEq, eq_comm, Pool.take_eq rfl]
  simp [Pool.finish]

theorem foldlM_workOne_eq_ok_iff :
    (jobs.foldlM (fun p _ => s.workOne world p) ⟨jobs, [], done⟩).exec.1 = .ok p ↔
      ∃ results, results.map Except.ok = jobs.map (s.answer world) ∧
        p = ⟨[], [], done ++ results⟩ := by
  induction jobs generalizing done with
  | nil =>
    rw [List.foldlM_nil, (Logged.Yields.ok _).exec_eq, Except.ok.injEq]
    simp [eq_comm]
  | cons job rest ih =>
    rw [List.foldlM_cons, (s.steady_workOne world _).bind_eq_ok_iff
      (s.steady_foldlM_workOne world rest)]
    constructor
    · rintro ⟨q, hq, hrest⟩
      obtain ⟨r, hr, rfl⟩ := workOne_eq_ok_iff.mp hq
      obtain ⟨results, hresults, rfl⟩ := ih.mp hrest
      refine ⟨r :: results, ?_, by simp⟩
      rw [List.map_cons, List.map_cons, hresults, hr]
    · rintro ⟨results, hresults, rfl⟩
      obtain ⟨r, results, rfl, hr, hrest⟩ := List.map_eq_cons_iff.mp hresults
      exact ⟨_, workOne_eq_ok_iff.mpr ⟨r, hr.symm, rfl⟩, ih.mpr ⟨results, hrest, by simp⟩⟩

theorem receiveAll_length (results : List JobResult) :
    receiveAll results.length ⟨[], [], results⟩ = (results, .idle) := by
  induction results with
  | nil => rfl
  | cons r rest ih =>
    rw [List.length_cons, receiveAll]
    show (r :: (receiveAll rest.length ⟨[], [], rest⟩).1, _) = _
    rw [ih]

theorem steady_run (s : Service) (world : World) (workers : Nat) (jobs : List Job) :
    (s.run world workers jobs).Steady :=
  (Logged.Steady.report _ _).bind fun _ =>
    (s.steady_foldlM_workOne world jobs _).bind fun _ => .ok _

/-- **One worker gives the answers in the order of the jobs**, and the pool is idle again. -/
theorem run_eq_ok_iff {workers : Nat} : (s.run world workers jobs).exec.1 = .ok (results, p) ↔
    results.map Except.ok = jobs.map (s.answer world) ∧ p = .idle := by
  have hsteady := s.steady_foldlM_workOne world jobs (jobs.foldl Pool.submit .idle)
  rw [run, (Logged.Steady.report _ _).bind_eq_ok_iff fun _ => hsteady.bind fun _ => .ok _]
  constructor
  · rintro ⟨-, -, h⟩
    obtain ⟨worked, hworked, hreceived⟩ := (hsteady.bind_eq_ok_iff fun _ => .ok _).mp h
    rw [foldl_submit_idle] at hworked
    obtain ⟨answers, hanswers, rfl⟩ := foldlM_workOne_eq_ok_iff.mp hworked
    have hlast : receiveAll jobs.length ⟨[], [], answers⟩ = (results, p) := Except.ok.inj hreceived
    rw [length_eq_of_answers hanswers, receiveAll_length] at hlast
    obtain ⟨rfl, rfl⟩ := Prod.mk.inj hlast
    exact ⟨hanswers, rfl⟩
  · rintro ⟨hanswers, rfl⟩
    refine ⟨(), rfl, (hsteady.bind_eq_ok_iff fun _ => .ok _).mpr ⟨⟨[], [], results⟩, ?_, ?_⟩⟩
    · rw [foldl_submit_idle]
      exact foldlM_workOne_eq_ok_iff.mpr ⟨results, hanswers, rfl⟩
    · rw [length_eq_of_answers hanswers, receiveAll_length]
      rfl

end Service

/-! ## A crew -/

namespace Crew

open Event (Tells)

variable {s : Service} {world : World} {workers : Nat} {jobs : List Job}
  {results : List JobResult} {pool : Pool}

/-- A crew works off a batch of jobs in some order of its steps, and nothing is published. The host
waits for as many results as it has submitted jobs, and receives them in this order. -/
def WorksOff (s : Service) (world : World) (workers : Nat) (jobs : List Job)
    (results : List JobResult) : Prop :=
  ∃ events c, Run world (start s workers) events c ∧ Tells events jobs results ∧
    results.length = jobs.length

/-- The second of two workers can be done first. -/
theorem worksOff_overtaken {r r' : JobResult} (hr : s.Answers world r) (hr' : s.Answers world r') :
    WorksOff s world 2 [r.job, r'.job] [r', r] := by
  have hsubmitted : Run world (start s 2) _ _ :=
    (Run.single (.submit (start s 2) r.job)).concat (.submit _ r'.job)
  have htaken := (hsubmitted.concat (.take (i := 0) rfl rfl)).concat (.take (i := 1) rfl rfl)
  have hfirst := ((htaken.concat (.generate (i := 1) rfl hr'.first)).concat
    (.finish (i := 1) rfl (Service.secondPass_eq_ok_iff.mpr hr'.second))).concat (.receive rfl)
  have hrun := ((hfirst.concat (.generate (i := 0) rfl hr.first)).concat
    (.finish (i := 0) rfl (Service.secondPass_eq_ok_iff.mpr hr.second))).concat (.receive rfl)
  exact ⟨_, _, hrun, ⟨rfl, rfl, by simp [Event.Publishes]⟩, rfl⟩

/-- **The results are the answers to the jobs**, in some order. -/
theorem WorksOff.perm (h : WorksOff s world workers jobs results) :
    (jobs.map (s.answer world)).Perm (results.map Except.ok) := by
  obtain ⟨events, c, hrun, htells, hlength⟩ := h
  have hjobs := hrun.jobs_eq
  rw [htells.received, htells.submitted] at hjobs
  -- as many results as jobs leave no job in the pool
  have hpool : c.pool.jobs = 0 := by
    have hcard := congrArg Multiset.card hjobs
    rw [Multiset.card_add, Multiset.coe_card, Multiset.coe_card, List.length_map, hlength] at hcard
    exact Multiset.card_eq_zero.mp (by omega)
  rw [hpool, zero_add, Multiset.coe_eq_coe] at hjobs
  have hanswers : (results.map JobResult.job).map (s.answer world) = results.map Except.ok := by
    rw [List.map_map]
    refine List.map_congr_left fun r hr => Service.answer_eq_ok_iff.mpr ⟨rfl, ?_⟩
    refine hrun.answers_of_quiet htells.quiet (List.mem_append_right _ ?_)
    rw [htells.received]
    exact hr
  rw [← hanswers]
  exact hjobs.symm.map _

/-- One worker has the results of any crew. -/
theorem WorksOff.exists_run (h : WorksOff s world workers jobs results) (workers' : Nat) :
    ∃ ordered, (s.run world workers' jobs).exec.1 = .ok (ordered, .idle) ∧
      ordered.Perm results := by
  have hsame := congrFun₂ (List.eq_map_comp_perm Except.ok) (jobs.map (s.answer world)) results
  obtain ⟨ordered, hordered, hperm⟩ := hsame.mpr h.perm
  exact ⟨ordered, Service.run_eq_ok_iff.mpr ⟨hordered.symm, rfl⟩, hperm⟩

/-- One worker is a crew. -/
theorem worksOff_of_run (h : (s.run world workers jobs).exec.1 = .ok (results, pool)) :
    WorksOff s world workers jobs results := by
  obtain ⟨events, hrun, htells⟩ := Service.run_is_schedule h
  have hresults := (Service.run_eq_ok_iff.mp h).1
  exact ⟨events, _, hrun, htells, (Service.length_eq_of_answers hresults).symm⟩

end Crew

end PlotGrid
