import PlotGrid.Proofs.Service.Conservation

/-!
# Schedules of a crew

One order of the steps of a crew is the one that is carried out here: all jobs are submitted, one
worker does them in turn, and all results are received. Whatever order was taken so far, all jobs
can still be brought to an end if the passes for their chunks return.

- `Event.Tells`: what a list of events submits and receives, without a publication.
- `Service.run_is_schedule`: a batch of jobs is a run of the crew.
- `Service.run_accounts`: so a batch loses and repeats nothing.
- `Crew.exists_completion`: every job can be brought to an end.
-/

namespace PlotGrid

/-- The events submit these jobs and receive these results, and nothing is published. -/
structure Event.Tells (events : List Event) (jobs : List Job) (results : List JobResult) :
    Prop where
  submitted : Event.submitted events = jobs
  received : Event.received events = results
  quiet : ∀ e ∈ events, ¬ e.Publishes

namespace Event.Tells

variable {events events' : List Event} {jobs jobs' : List Job} {results results' : List JobResult}

theorem nil : Tells [] [] [] :=
  ⟨rfl, rfl, fun _ he => nomatch he⟩

theorem append (h : Tells events jobs results) (h' : Tells events' jobs' results') :
    Tells (events ++ events') (jobs ++ jobs') (results ++ results') := by
  refine ⟨?_, ?_, ?_⟩
  · rw [Event.submitted, List.filterMap_append, ← h.submitted, ← h'.submitted]
    rfl
  · rw [Event.received, List.filterMap_append, ← h.received, ← h'.received]
    rfl
  · intro e he
    rcases List.mem_append.mp he with he | he
    · exact h.quiet e he
    · exact h'.quiet e he

theorem submit (job : Job) : Tells [.submit job] [job] [] :=
  ⟨rfl, rfl, by simp [Publishes]⟩

theorem receive (r : JobResult) : Tells [.receive r] [] [r] :=
  ⟨rfl, rfl, by simp [Publishes]⟩

theorem solo (i : Nat) (r : JobResult) :
    Tells [.take i r.job, .generate i r.outcome, .finish i r] [] [] :=
  ⟨rfl, rfl, by simp [Publishes]⟩

end Event.Tells

namespace Crew

open Event (Tells)

variable {world : World} {c d : Crew}

/-! ## Batches -/

namespace Run

theorem submits (world : World) (c : Crew) (jobs : List Job) :
    ∃ events, Run world c events { c with pool := jobs.foldl Pool.submit c.pool } ∧
      Tells events jobs [] := by
  induction jobs generalizing c with
  | nil => exact ⟨[], .nil c, .nil⟩
  | cons job rest ih =>
    obtain ⟨events, hrun, htells⟩ := ih { c with pool := c.pool.submit job }
    exact ⟨_, (single (.submit c job)).append hrun, (Tells.submit job).append htells⟩

theorem receives (world : World) (c : Crew) (n : Nat) :
    ∃ events, Run world c events { c with pool := (Service.receiveAll n c.pool).2 } ∧
      Tells events [] (Service.receiveAll n c.pool).1 := by
  induction n generalizing c with
  | zero => exact ⟨[], .nil c, .nil⟩
  | succ n ih =>
    rw [Service.receiveAll]
    cases hpool : c.pool.receive with
    | none => exact ⟨[], .nil c, .nil⟩
    | some next =>
      obtain ⟨r, pool⟩ := next
      obtain ⟨events, hrun, htells⟩ := ih { c with pool }
      exact ⟨_, (single (.receive hpool)).append hrun, (Tells.receive r).append htells⟩

/-- An idle worker can do the first job of the queue with nothing published meanwhile. -/
theorem solo_of_answers {i : Nat} {r : JobResult} {rest : List Job}
    (hi : c.workers[i]? = some .idle) (hjob : c.pool.waiting = r.job :: rest)
    (hr : c.service.Answers world r) :
    Run world c [.take i r.job, .generate i r.outcome, .finish i r]
      { c with pool := c.pool.take.finish r.job r } :=
  solo [] hi hjob (by simp) hr.first
    (Service.secondPass_eq_ok_iff.mpr hr.second)

end Run

end Crew

namespace Service

variable {s : Service} {world : World} {p q : Pool}

theorem steady_process (s : Service) (world : World) (job : Job) :
    (s.process world job).Steady := by
  rw [process_eq]
  exact (s.steady_generate world job.cx job.cz).bind fun outcome =>
    (s.steady_secondPass world job outcome).bind fun _ => .ok _

theorem steady_workOne (s : Service) (world : World) (p : Pool) : (s.workOne world p).Steady := by
  rw [workOne]
  split
  · exact .ok p
  · exact (s.steady_process world _).bind fun _ => .ok _

theorem workOne_eq_ok {job : Job} {rest : List Job} (hjob : p.waiting = job :: rest)
    (h : (s.workOne world p).exec.1 = .ok q) :
    ∃ r, r.job = job ∧ s.Answers world r ∧ q = p.take.finish r.job r := by
  rw [workOne, hjob] at h
  obtain ⟨r, hr, hq⟩ := ((s.steady_process world job).bind_eq_ok_iff fun _ => .ok _).mp h
  obtain ⟨rfl, -⟩ := process_eq_ok_iff.mp hr
  exact ⟨r, rfl, process_eq_ok_iff_answers.mp hr, (Except.ok.inj hq).symm⟩

theorem steady_foldlM_workOne (s : Service) (world : World) (jobs : List Job) (p : Pool) :
    (jobs.foldlM (fun p _ => s.workOne world p) p).Steady := by
  induction jobs generalizing p with
  | nil => exact .ok p
  | cons job rest ih =>
    rw [List.foldlM_cons]
    exact (s.steady_workOne world p).bind ih

open Event (Tells) in
/-- One worker that goes on as long as there are jobs. -/
theorem exists_run_of_foldlM {c : Crew} (hidle : c.workers[0]? = some .idle) (jobs : List Job)
    (h : (jobs.foldlM (fun p _ => c.service.workOne world p) c.pool).exec.1 = .ok q) :
    ∃ events, Crew.Run world c events { c with pool := q } ∧ Tells events [] [] := by
  induction jobs generalizing c with
  | nil =>
    rw [← Except.ok.inj h]
    exact ⟨[], .nil c, .nil⟩
  | cons job rest ih =>
    -- the jobs only count the rounds; each round takes what the queue has
    rw [List.foldlM_cons, (c.service.steady_workOne world c.pool).bind_eq_ok_iff
      (c.service.steady_foldlM_workOne world rest)] at h
    obtain ⟨p, hp, hrest⟩ := h
    obtain ⟨events, hrun, htells⟩ := ih (c := { c with pool := p }) hidle hrest
    cases hwaiting : c.pool.waiting with
    | nil =>
      have hsame : c.pool = p := by
        rw [workOne, hwaiting] at hp
        exact Except.ok.inj hp
      subst hsame
      exact ⟨events, hrun, htells⟩
    | cons job' waiting =>
      obtain ⟨r, rfl, hr, rfl⟩ := workOne_eq_ok hwaiting hp
      exact ⟨_, (Crew.Run.solo_of_answers hidle hwaiting hr).append hrun,
        (Tells.solo 0 r).append htells⟩

/-- **A batch of jobs is a run of the crew.** -/
theorem run_is_schedule {workers : Nat} {jobs : List Job} {results : List JobResult} {pool : Pool}
    (h : (s.run world workers jobs).exec.1 = .ok (results, pool)) :
    ∃ events, Crew.Run world (.start s workers) events { Crew.start s workers with pool } ∧
      Event.Tells events jobs results := by
  rw [run, (Logged.Steady.report _ _).bind_eq_ok_iff fun _ =>
    (s.steady_foldlM_workOne world jobs _).bind fun _ => .ok _] at h
  obtain ⟨-, -, h⟩ := h
  obtain ⟨worked, hworked, hreceived⟩ :=
    ((s.steady_foldlM_workOne world jobs _).bind_eq_ok_iff fun _ => .ok _).mp h
  have hidle : (Crew.start s workers).workers[0]? = some .idle :=
    List.getElem?_replicate_of_lt (by omega)
  obtain ⟨first, hsubmit, hfirst⟩ := Crew.Run.submits world (.start s workers) jobs
  obtain ⟨second, hwork, hsecond⟩ := exists_run_of_foldlM
    (c := { Crew.start s workers with pool := jobs.foldl Pool.submit .idle }) hidle jobs hworked
  obtain ⟨third, hreceive, hthird⟩ := Crew.Run.receives world
    { Crew.start s workers with pool := worked } jobs.length
  have hlast : receiveAll jobs.length worked = (results, pool) := Except.ok.inj hreceived
  rw [hlast] at hreceive hthird
  refine ⟨_, (hsubmit.append hwork).append hreceive, ?_⟩
  simpa using (hfirst.append hsecond).append hthird

/-- **A batch loses and repeats no job**, and every result is the answer to direct requests. -/
theorem run_accounts {workers : Nat} {jobs : List Job} {results : List JobResult} {pool : Pool}
    (h : (s.run world workers jobs).exec.1 = .ok (results, pool)) :
    (jobs : Multiset Job) = pool.jobs + results.map JobResult.job ∧
      ∀ r ∈ pool.results ++ results, s.Answers world r := by
  obtain ⟨events, hrun, htells⟩ := run_is_schedule h
  have hjobs := hrun.jobs_eq
  rw [htells.received, htells.submitted] at hjobs
  refine ⟨hjobs.symm, ?_⟩
  intro r hr
  refine hrun.answers_of_quiet htells.quiet ?_
  rw [Crew.delivered, htells.received]
  exact hr

/-! ## The end of all jobs -/

/-- Both passes for a chunk return. -/
structure Returns (s : Service) (world : World) (cx cz : Int) : Prop where
  generate : ∃ outcome, (s.generate world cx cz).exec.1 = .ok outcome
  populate : ∃ populated, (s.populate world cx cz).exec.1 = .ok populated

theorem Returns.secondPass {job : Job} (h : s.Returns world job.cx job.cz)
    (outcome : ChunkOutcome) :
    ∃ populated, (s.secondPass world job outcome).exec.1 = .ok populated := by
  rw [Service.secondPass]
  split
  · exact h.populate
  · exact ⟨none, rfl⟩

theorem Returns.exists_answers {job : Job} (h : s.Returns world job.cx job.cz) :
    ∃ r, r.job = job ∧ s.Answers world r := by
  obtain ⟨outcome, houtcome⟩ := h.generate
  obtain ⟨populated, hpopulated⟩ := h.secondPass outcome
  exact ⟨⟨job, outcome, populated⟩, rfl, houtcome, secondPass_eq_ok_iff.mp hpopulated⟩

end Service

namespace Crew

open Event (Tells)

variable {world : World} {c : Crew}

/-- A worker can bring its job to an end. -/
theorem exists_idle {i : Nat} {w : Worker} (hi : c.workers[i]? = some w)
    (hreturns : ∀ job, w.job? = some job → c.service.Returns world job.cx job.cz) :
    ∃ events pool, Run world c events { c with pool, workers := c.workers.set i .idle } ∧
      pool.waiting = c.pool.waiting ∧ Tells events [] [] := by
  obtain ⟨hlt, hget⟩ := List.getElem?_eq_some_iff.mp hi
  cases w with
  | idle =>
    have hsame : c.workers.set i .idle = c.workers := by
      rw [← hget, List.set_getElem_self]
    rw [hsame]
    exact ⟨[], c.pool, .nil c, rfl, .nil⟩
  | fresh job =>
    have hjob := hreturns job rfl
    obtain ⟨outcome, houtcome⟩ := hjob.generate
    obtain ⟨populated, hpopulated⟩ := hjob.secondPass outcome
    have hhalf := Run.single (.generate hi houtcome)
    have hdone := hhalf.concat (.finish (r := ⟨job, outcome, populated⟩)
      (List.getElem?_set_self hlt) hpopulated)
    rw [List.set_set] at hdone
    exact ⟨_, _, hdone, rfl, rfl, rfl, by simp [Event.Publishes]⟩
  | halfway job outcome =>
    obtain ⟨populated, hpopulated⟩ := (hreturns job rfl).secondPass outcome
    exact ⟨_, _, .single (.finish (r := ⟨job, outcome, populated⟩) hi hpopulated), rfl, rfl, rfl,
      by simp [Event.Publishes]⟩

/-- All workers can bring their jobs to an end, one after the other. -/
theorem exists_all_idle (before after : List Worker) (hworkers : c.workers = before ++ after)
    (hbefore : ∀ w ∈ before, w = .idle)
    (hreturns : ∀ w ∈ after, ∀ job, w.job? = some job → c.service.Returns world job.cx job.cz) :
    ∃ events pool workers, Run world c events { c with pool, workers } ∧
      pool.waiting = c.pool.waiting ∧ (∀ w ∈ workers, w = .idle) ∧
      workers.length = c.workers.length ∧ Tells events [] [] := by
  induction after generalizing c before with
  | nil =>
    refine ⟨[], c.pool, c.workers, .nil c, rfl, ?_, rfl, .nil⟩
    rw [hworkers, List.append_nil]
    exact hbefore
  | cons w rest ih =>
    -- the workers before are idle, and this one joins them
    have hi : c.workers[before.length]? = some w := by
      rw [hworkers, List.getElem?_append_right le_rfl, Nat.sub_self]
      rfl
    obtain ⟨events, pool, hrun, hwaiting, htells⟩ :=
      exists_idle hi (hreturns w List.mem_cons_self)
    have hset : c.workers.set before.length .idle = before ++ [.idle] ++ rest := by
      rw [hworkers, List.set_append_right _ _ le_rfl, Nat.sub_self]
      simp
    obtain ⟨events', pool', workers, hrun', hwaiting', hidle, hlength, htells'⟩ :=
      ih (c := { c with pool, workers := c.workers.set before.length .idle }) (before ++ [.idle])
        hset (by simpa [or_imp, forall_and] using hbefore)
        fun w' hw' => hreturns w' (List.mem_cons_of_mem w hw')
    exact ⟨_, pool', workers, hrun.append hrun', hwaiting'.trans hwaiting, hidle,
      hlength.trans List.length_set, htells.append htells'⟩

/-- An idle worker can do all jobs of the queue. -/
theorem exists_no_waiting (hidle : c.workers[0]? = some .idle) (waiting : List Job)
    (hwaiting : c.pool.waiting = waiting)
    (hreturns : ∀ job ∈ waiting, c.service.Returns world job.cx job.cz) :
    ∃ events pool, Run world c events { c with pool } ∧ pool.waiting = [] ∧ Tells events [] [] := by
  induction waiting generalizing c with
  | nil => exact ⟨[], c.pool, .nil c, hwaiting, .nil⟩
  | cons job rest ih =>
    obtain ⟨r, rfl, hr⟩ := (hreturns job List.mem_cons_self).exists_answers
    have hrun := Run.solo_of_answers hidle hwaiting hr
    have hrest : (c.pool.take.finish r.job r).waiting = rest := by
      rw [Pool.take_eq hwaiting]
      rfl
    obtain ⟨events, pool, hrun', hnone, htells⟩ :=
      ih (c := { c with pool := c.pool.take.finish r.job r }) hidle hrest
        fun job' hjob' => hreturns job' (List.mem_cons_of_mem _ hjob')
    exact ⟨_, pool, hrun.append hrun', hnone, (Tells.solo 0 r).append htells⟩

/-- **Every job can be brought to an end**, whatever was done so far: if the passes for the chunks
of all jobs that wait or are held return, the crew can go on until the results tell all jobs. -/
theorem exists_completion {s : Service} {workers : Nat} {events : List Event}
    (hrun : Run world (start s workers) events c)
    (hwaiting : ∀ job ∈ c.pool.waiting, c.service.Returns world job.cx job.cz)
    (hheld : ∀ job ∈ c.pool.held, c.service.Returns world job.cx job.cz) :
    ∃ events' d, Run world c events' d ∧ Tells events' [] [] ∧
      ((d.delivered (events ++ events')).map JobResult.job).Perm (Event.submitted events) := by
  have hworkers : ∀ w ∈ c.workers, ∀ job, w.job? = some job →
      c.service.Returns world job.cx job.cz := by
    intro w hw job hjob
    exact hheld job (hrun.manned.mem_iff.mpr (List.mem_filterMap.mpr ⟨w, hw, hjob⟩))
  obtain ⟨first, pool, workers', hfirst, hsame, hidle, hlength, htells⟩ :=
    exists_all_idle [] c.workers rfl (by simp) hworkers
  have hzero : workers'[0]? = some .idle := by
    have hpos : 0 < workers'.length := by
      have hlength' : c.workers.length = max workers 1 :=
        hrun.length_workers.trans List.length_replicate
      omega
    rw [List.getElem?_eq_getElem hpos, hidle _ (List.getElem_mem hpos)]
  obtain ⟨second, pool', hsecond, hnone, htells'⟩ :=
    exists_no_waiting (c := { c with pool, workers := workers' }) hzero _ hsame hwaiting
  have htold := htells.append htells'
  refine ⟨_, _, hfirst.append hsecond, htold, ?_⟩
  have hperm := (hrun.append (hfirst.append hsecond)).delivered_perm hnone fun w hw => by
    rw [hidle w hw]
    rfl
  have hsubmitted : Event.submitted (first ++ second) = [] := htold.submitted
  rw [Event.submitted, List.filterMap_append, ← Event.submitted, ← Event.submitted, hsubmitted,
    List.append_nil] at hperm
  exact hperm

end Crew

end PlotGrid
