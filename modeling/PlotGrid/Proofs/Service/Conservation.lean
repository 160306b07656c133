import Mathlib.Algebra.Order.Group.Multiset
import Mathlib.Tactic.Abel
import PlotGrid.Proofs.Service.Crew

/-!
# Conservation of jobs

No order of steps loses or repeats a job: a job that was submitted waits, is held by one worker, or
is told by one result. A result is what the two passes gave for the chunk of its job, each at its
own moment; if nothing was published between them, it is the answer of one moment.

- `Crew.Manned`, `Crew.Step.manned`: the jobs that are held are those of the workers.
- `Pool.jobs`, `Crew.Step.jobs_eq`: the jobs of a pool, and what one step does to them.
- `Course`, `Course.Made`: the way of a job to its result.
- `Crew.Explained`, `Crew.Explained.step`: where every worker and every result comes from.
- `Crew.Run.jobs_eq`, `Crew.Run.explained`: both for every run.
- `Crew.Accounted`, `jobs_are_conserved`: what is known of a crew after any list of events.
-/

namespace PlotGrid

/-! ## Jobs of a pool -/

/-- The entries of a list with one of them changed. -/
theorem perm_filterMap_set {α β : Type} {l : List α} {i : Nat} {a b : α} (f : α → Option β)
    (h : l[i]? = some a) :
    ((f a).toList ++ (l.set i b).filterMap f).Perm ((f b).toList ++ l.filterMap f) := by
  induction l generalizing i with
  | nil => cases h
  | cons c rest ih =>
    cases i with
    | zero =>
      cases h
      rw [List.set_cons_zero, List.filterMap_cons, List.filterMap_cons]
      cases f a <;> cases f b
      all_goals simp [List.Perm.swap]
    | succ i =>
      have hrest := ih h
      rw [List.set_cons_succ, List.filterMap_cons, List.filterMap_cons]
      cases f c with
      | none => exact hrest
      | some d => exact List.perm_middle.trans ((hrest.cons d).trans List.perm_middle.symm)

namespace Pool

variable {p q : Pool} {job : Job} {r : JobResult} {rest : List Job}

/-- The jobs that a pool has not given back, each as often as it is there. -/
def jobs (p : Pool) : Multiset Job :=
  p.waiting + p.held + p.results.map JobResult.job

theorem take_eq (h : p.waiting = job :: rest) :
    p.take = { p with waiting := rest, held := p.held ++ [job] } := by
  rw [take, h]

theorem receive_eq_some (h : p.receive = some (r, q)) :
    p = { q with results := r :: q.results } := by
  obtain ⟨waiting, held, results⟩ := p
  cases results with
  | nil => cases h
  | cons r' rest =>
    cases h
    rfl

theorem jobs_submit (p : Pool) (job : Job) : (p.submit job).jobs = p.jobs + {job} := by
  simp only [jobs, submit, ← Multiset.coe_add, Multiset.coe_singleton]
  abel

/-- A job that is taken is held instead of waiting. -/
theorem jobs_take (h : p.waiting = job :: rest) : p.take.jobs = p.jobs := by
  simp only [jobs, take_eq h, h, ← Multiset.cons_coe, ← Multiset.coe_add,
    ← Multiset.singleton_add]
  abel

/-- A job that is finished is told by its result instead of held. -/
theorem jobs_finish (h : r.job ∈ p.held) : (p.finish r.job r).jobs = p.jobs := by
  have hheld := Multiset.coe_eq_coe.mpr (List.perm_cons_erase h)
  simp only [jobs, finish, hheld, List.map_append, List.map_singleton, ← Multiset.cons_coe,
    ← Multiset.coe_add, ← Multiset.singleton_add]
  abel

theorem jobs_receive (h : p.receive = some (r, q)) : p.jobs = q.jobs + {r.job} := by
  rw [receive_eq_some h]
  simp only [jobs, List.map_cons, ← Multiset.cons_coe, ← Multiset.singleton_add]
  abel

end Pool

namespace Crew

variable {world : World} {c d : Crew} {e : Event} {events : List Event} {s : Service}

/-- The jobs that are held are those of the workers, each held by one. -/
def Manned (c : Crew) : Prop :=
  c.pool.held.Perm (c.workers.filterMap Worker.job?)

theorem Manned.held_perm (h : c.Manned) {i : Nat} {job : Job} {outcome : ChunkOutcome}
    (hi : c.workers[i]? = some (.halfway job outcome)) :
    c.pool.held.Perm (job :: (c.workers.set i .idle).filterMap Worker.job?) := by
  have hset := perm_filterMap_set (b := .idle) Worker.job? hi
  exact h.trans hset.symm

theorem manned_start (s : Service) (workers : Nat) : (start s workers).Manned := by
  show [].Perm ((List.replicate (max workers 1) Worker.idle).filterMap Worker.job?)
  rw [List.filterMap_replicate_of_none rfl]

/-- **Workers and pool agree on who holds what.** -/
theorem Step.manned (h : Step world c e d) (hc : c.Manned) : d.Manned := by
  cases h with
  | submit => exact hc
  | @take i job rest hi hjob =>
    have hset := perm_filterMap_set (b := .fresh job) Worker.job? hi
    show c.pool.take.held.Perm _
    rw [Pool.take_eq hjob]
    exact List.perm_append_comm.trans ((hc.cons job).trans hset.symm)
  | @generate i job outcome hi hpass =>
    have hset := perm_filterMap_set (b := .halfway job outcome) Worker.job? hi
    exact hc.trans hset.cons_inv.symm
  | @finish i r hi hpass =>
    have herase := (hc.held_perm hi).erase r.job
    rw [List.erase_cons_head] at herase
    exact herase
  | @receive r pool hpool =>
    rw [Manned, Pool.receive_eq_some hpool] at hc
    exact hc
  | publish => exact hc

/-- **A step adds the jobs that are submitted and gives back those that are received.** -/
theorem Step.jobs_eq (h : Step world c e d) (hc : c.Manned) :
    d.pool.jobs + (e.received?.toList.map JobResult.job : List Job) =
      c.pool.jobs + e.submitted?.toList := by
  cases h with
  | submit job => exact (add_zero _).trans (c.pool.jobs_submit job)
  | take hi hjob =>
    rw [Pool.jobs_take hjob]
    rfl
  | generate => rfl
  | @finish i r hi hpass =>
    have hmem : r.job ∈ c.pool.held := (hc.held_perm hi).mem_iff.mpr List.mem_cons_self
    rw [Pool.jobs_finish hmem]
    rfl
  | receive hpool => exact (Pool.jobs_receive hpool).symm.trans (add_zero _).symm
  | publish => rfl

end Crew

/-! ## Results -/

/-- The way of a job through a list of events up to its result: what happened before a worker took
it, before its first pass, before its second pass and the result, and after that. -/
structure Course (events : List Event) (r : JobResult) where
  worker : Nat
  before : List Event
  early : List Event
  late : List Event
  since : List Event
  events_eq : events = before ++ .take worker r.job :: early ++
    .generate worker r.outcome :: late ++ .finish worker r :: since

namespace Course

variable {events : List Event} {r : JobResult}

/-- What happened before the first pass. -/
def first (k : Course events r) : List Event :=
  k.before ++ .take k.worker r.job :: k.early

/-- What happened before the second pass. -/
def second (k : Course events r) : List Event :=
  k.first ++ .generate k.worker r.outcome :: k.late

/-- The result is what the two passes gave for the chunk of the job, each at its moment. The second
is made if it is asked for and the first found an area. -/
structure Made (k : Course events r) (s : Service) (world : World) : Prop where
  first : ((s.after k.first).generate world r.job.cx r.job.cz).exec.1 = .ok r.outcome
  second : ((s.after k.second).secondPass world r.job r.outcome).exec.1 = .ok r.populated

/-- The way of a job is the same when more happens. -/
def extend (k : Course events r) (e : Event) : Course (events ++ [e]) r where
  worker := k.worker
  before := k.before
  early := k.early
  late := k.late
  since := k.since ++ [e]
  events_eq := (congrArg (· ++ [e]) k.events_eq).trans (List.append_assoc _ _ _)

/-- If nothing is published between the two passes, both are of one moment. -/
theorem Made.answers_of_quiet {k : Course events r} {s : Service} {world : World}
    (h : k.Made s world) (hquiet : ∀ e ∈ k.late, ¬ e.Publishes) :
    (s.after k.first).Answers world r := by
  have hsecond := h.second
  rw [Course.second, Service.after_append, Service.after_of_quiet,
    Service.secondPass_eq_ok_iff] at hsecond
  · exact ⟨h.first, hsecond⟩
  · intro e he
    rcases List.mem_cons.mp he with rfl | he
    · exact id
    · exact hquiet e he

end Course

/-- Where a worker is with its job follows from what happened. -/
def Worker.Underway (s : Service) (world : World) (events : List Event) (i : Nat) : Worker → Prop
  | .idle => True
  | .fresh job => ∃ before early, events = before ++ .take i job :: early
  | .halfway job outcome => ∃ before early late,
      events = before ++ .take i job :: early ++ .generate i outcome :: late ∧
        ((s.after (before ++ .take i job :: early)).generate world job.cx job.cz).exec.1 =
          .ok outcome

theorem Worker.Underway.extend {s : Service} {world : World} {events : List Event} {i : Nat}
    {w : Worker} (h : w.Underway s world events i) (e : Event) :
    w.Underway s world (events ++ [e]) i := by
  cases w with
  | idle => trivial
  | fresh job =>
    obtain ⟨before, early, rfl⟩ := h
    exact ⟨before, early ++ [e], by simp⟩
  | halfway job outcome =>
    obtain ⟨before, early, late, rfl, hfirst⟩ := h
    exact ⟨before, early, late ++ [e], by simp, hfirst⟩

namespace Crew

variable {world : World} {c d : Crew} {e : Event} {events : List Event} {s : Service}

/-- The results that were handed in, received or not. -/
def delivered (c : Crew) (events : List Event) : List JobResult :=
  c.pool.results ++ Event.received events

/-- Where every worker and every result comes from. -/
structure Explained (s : Service) (world : World) (events : List Event) (c : Crew) : Prop where
  service : c.service = s.after events
  workers : ∀ (i : Nat) (w : Worker), c.workers[i]? = some w → w.Underway s world events i
  delivered : ∀ r ∈ c.delivered events, ∃ k : Course events r, k.Made s world

/-- A step that changes one worker. -/
theorem Explained.workers_set (h : c.Explained s world events) {i : Nat} {w : Worker}
    (hw : w.Underway s world (events ++ [e]) i) (j : Nat) (w' : Worker)
    (hj : (c.workers.set i w)[j]? = some w') : w'.Underway s world (events ++ [e]) j := by
  rw [List.getElem?_set] at hj
  split at hj
  · rename_i hij
    split at hj
    · rw [← Option.some.inj hj, ← hij]
      exact hw
    · cases hj
  · exact (h.workers j w' hj).extend e

/-- A result that is there after a step was there before, or a worker has handed it in. -/
theorem Step.mem_delivered (h : Step world c e d) {r : JobResult}
    (hr : r ∈ d.delivered (events ++ [e])) : r ∈ c.delivered events ∨ ∃ i, e = .finish i r := by
  rw [delivered, Event.received_concat] at hr
  cases h with
  | take hi hjob =>
    rw [Pool.take_eq hjob] at hr
    exact .inl (by simpa [delivered, Event.received?] using hr)
  | finish hi hpass =>
    -- the new result is the last of those that wait to be received
    simp only [Pool.finish, Event.received?, Option.toList_none, List.append_nil,
      List.mem_append, List.mem_singleton, or_assoc] at hr
    rcases hr with hr | rfl | hr
    · exact .inl (List.mem_append_left _ hr)
    · exact .inr ⟨_, rfl⟩
    · exact .inl (List.mem_append_right _ hr)
  | @receive r' pool hpool =>
    -- a result that is received was the first of those that waited
    refine .inl ?_
    rw [delivered, Pool.receive_eq_some hpool]
    simp only [Event.received?, Option.toList_some, List.mem_append, List.mem_singleton] at hr
    rcases hr with hr | hr | rfl
    · exact List.mem_append_left _ (List.mem_cons_of_mem r' hr)
    · exact List.mem_append_right _ hr
    · exact List.mem_append_left _ List.mem_cons_self
  | _ => exact .inl (by simpa [delivered, Event.received?, Pool.submit] using hr)

namespace Explained

theorem step_service (h : c.Explained s world events) (hstep : Step world c e d) :
    d.service = s.after (events ++ [e]) := by
  rw [hstep.service_eq, h.service, Service.after_append]
  rfl

theorem step_workers (h : c.Explained s world events) (hstep : Step world c e d) (j : Nat)
    (w : Worker) (hj : d.workers[j]? = some w) : w.Underway s world (events ++ [e]) j := by
  cases hstep with
  | @take i job => exact h.workers_set (w := .fresh job) ⟨events, [], rfl⟩ j w hj
  | generate hi hpass =>
    refine h.workers_set ?_ j w hj
    obtain ⟨before, early, hevents⟩ := h.workers _ _ hi
    rw [h.service] at hpass
    rw [hevents] at hpass ⊢
    exact ⟨before, early, [], rfl, hpass⟩
  | finish => exact h.workers_set (w := .idle) trivial j w hj
  | _ => exact (h.workers j w hj).extend _

theorem step_delivered (h : c.Explained s world events) (hstep : Step world c e d)
    (r : JobResult) (hr : r ∈ d.delivered (events ++ [e])) :
    ∃ k : Course (events ++ [e]) r, k.Made s world := by
  rcases hstep.mem_delivered hr with hold | ⟨i, rfl⟩
  · obtain ⟨k, hk⟩ := h.delivered r hold
    exact ⟨k.extend e, hk.first, hk.second⟩
  · cases hstep with
    | finish hi hpass =>
      -- the worker knows what happened up to its first pass, and the second is made now
      obtain ⟨before, early, late, hevents, hfirst⟩ := h.workers _ _ hi
      rw [h.service] at hpass
      rw [hevents] at hpass ⊢
      exact ⟨⟨i, before, early, late, [], rfl⟩, hfirst, hpass⟩

/-- **A step leaves nothing unexplained.** -/
theorem step (h : c.Explained s world events) (hstep : Step world c e d) :
    d.Explained s world (events ++ [e]) :=
  ⟨h.step_service hstep, h.step_workers hstep, h.step_delivered hstep⟩

end Explained

theorem explained_start (s : Service) (world : World) (workers : Nat) :
    (start s workers).Explained s world [] := by
  refine ⟨rfl, ?_, ?_⟩
  · intro i w hi
    rw [(List.mem_replicate.mp (List.mem_of_getElem? hi)).2]
    trivial
  · intro r hr
    cases hr

/-! ## Runs -/

namespace Run

variable {workers : Nat}

theorem explained (h : Run world (start s workers) events c) : c.Explained s world events := by
  induction h with
  | nil => exact explained_start s world workers
  | concat _ hstep ih => exact ih.step hstep

theorem manned (h : Run world (start s workers) events c) : c.Manned := by
  induction h with
  | nil => exact manned_start s workers
  | concat _ hstep ih => exact hstep.manned ih

theorem jobs_eq (h : Run world (start s workers) events c) :
    c.pool.jobs + ((Event.received events).map JobResult.job : List Job) =
      Event.submitted events := by
  induction h with
  | nil => rfl
  | concat hrun hstep ih =>
    -- what the last step receives and submits is moved past what the run before it did
    rw [Event.received_concat, Event.submitted_concat, List.map_append, ← Multiset.coe_add,
      ← Multiset.coe_add, ← ih, ← add_assoc, add_right_comm, hstep.jobs_eq hrun.manned,
      add_right_comm]

theorem length_workers (h : Run world c events d) : d.workers.length = c.workers.length := by
  induction h with
  | nil => rfl
  | concat _ hstep ih =>
    rw [← ih]
    cases hstep <;> simp

/-- If nothing was published, every result is the answer of the service. -/
theorem answers_of_quiet (h : Run world (start s workers) events c)
    (hquiet : ∀ e ∈ events, ¬ e.Publishes) {r : JobResult} (hr : r ∈ c.delivered events) :
    s.Answers world r := by
  obtain ⟨k, hk⟩ := h.explained.delivered r hr
  have hmem (e : Event) (he : e ∈ k.first ++ k.late) : e ∈ events := by
    rw [k.events_eq]
    simp only [Course.first, List.mem_append, List.mem_cons] at he ⊢
    tauto
  have hanswers := hk.answers_of_quiet fun e he => hquiet e (hmem e (List.mem_append_right _ he))
  rwa [Service.after_of_quiet] at hanswers
  exact fun e he => hquiet e (hmem e (List.mem_append_left _ he))

/-- When no job waits and no worker holds one, the results tell all jobs. -/
theorem delivered_perm (h : Run world (start s workers) events c) (hwaiting : c.pool.waiting = [])
    (hidle : ∀ w ∈ c.workers, w.job? = none) :
    ((c.delivered events).map JobResult.job).Perm (Event.submitted events) := by
  have hjobs := h.jobs_eq
  have hheld := h.manned
  rw [Manned, List.filterMap_eq_nil_iff.mpr hidle] at hheld
  rw [Pool.jobs, hwaiting, List.perm_nil.mp hheld] at hjobs
  rw [← Multiset.coe_eq_coe, ← hjobs, delivered, List.map_append, ← Multiset.coe_add]
  simp

end Run

/-- What is known of a crew after a list of events. -/
structure Accounted (s : Service) (workers : Nat) (world : World) (events : List Event)
    (c : Crew) : Prop where
  /-- The jobs that were submitted are those that wait, are held, and are told by a result that
  waits or was received, each as often. -/
  conserved : (Event.submitted events : Multiset Job) =
    c.pool.waiting + c.pool.held + c.pool.results.map JobResult.job +
      (Event.received events).map JobResult.job
  /-- The jobs that are held are those of the workers, each held by one. -/
  held : (c.pool.held : Multiset Job) = c.workers.filterMap Worker.job?
  workers : c.workers.length = max workers 1
  /-- A result carries the job that its worker took, and what the two passes gave for that. If
  nothing was published between them, it is the answer of the service of the first pass. -/
  delivered : ∀ r ∈ c.delivered events, ∃ k : Course events r, k.Made s world ∧
    ((∀ e ∈ k.late, ¬ e.Publishes) → (s.after k.first).Answers world r)
  /-- If nothing was published at all, every result is the answer of the service. -/
  undisturbed : (∀ e ∈ events, ¬ e.Publishes) → ∀ r ∈ c.delivered events, s.Answers world r
  /-- When no job waits and no worker holds one, the results tell all jobs. -/
  complete : c.pool.waiting = [] → (∀ w ∈ c.workers, w.job? = none) →
    ((c.delivered events).map JobResult.job).Perm (Event.submitted events)

end Crew

open Crew in
/-- **No order of steps loses or repeats a job**, with any number of workers. -/
theorem jobs_are_conserved {s : Service} {workers : Nat} {world : World} {events : List Event}
    {c : Crew} (hrun : Run world (start s workers) events c) :
    c.Accounted s workers world events where
  conserved := hrun.jobs_eq.symm
  held := Multiset.coe_eq_coe.mpr hrun.manned
  workers := hrun.length_workers.trans List.length_replicate
  delivered := by
    intro r hr
    obtain ⟨k, hk⟩ := hrun.explained.delivered r hr
    exact ⟨k, hk, hk.answers_of_quiet⟩
  undisturbed := fun hquiet _ hr => hrun.answers_of_quiet hquiet hr
  complete := hrun.delivered_perm

/-- A world of eight heights. -/
def World.low : World :=
  ⟨"world", 0, 7⟩

/-- A service with a small cell that owns all chunks. -/
def Service.small : Service :=
  { atlas := #[.small] }

open Crew in
/-- The second of two workers can be done first. -/
theorem jobs_are_conserved_of_two :
    ∃ r r' events c, Run .low (start .small 2) events c ∧
      Event.submitted events = [⟨0, 0, 1, true⟩, ⟨1, 0, 2, false⟩] ∧
      r.job = ⟨0, 0, 1, true⟩ ∧ r'.job = ⟨1, 0, 2, false⟩ ∧
      c.pool.results = [r] ∧ Event.received events = [r'] ∧
      Service.small.Answers .low r ∧ Service.small.Answers .low r' ∧
      ((c.delivered events).map JobResult.job).Perm (Event.submitted events) := by
  have hanswers (job : Job)
      (hbuffer : ∀ track, ∃ b, Buffer.forChunk? job.cx job.cz 0 7 track = .ok b) :
      ∃ r, r.job = job ∧ Service.small.Answers .low r := Service.exists_answers .low rfl job hbuffer
  obtain ⟨r, hjob, hr⟩ := hanswers ⟨0, 0, 1, true⟩ fun _ => ⟨_, rfl⟩
  obtain ⟨r', hjob', hr'⟩ := hanswers ⟨1, 0, 2, false⟩ fun _ => ⟨_, rfl⟩
  have hsubmitted : Run .low (start .small 2) _ _ :=
    (Run.single (.submit (start .small 2) r.job)).concat (.submit _ r'.job)
  have htaken := (hsubmitted.concat (.take (i := 0) rfl rfl)).concat (.take (i := 1) rfl rfl)
  -- the second worker is done and its result received before the first has begun
  have hother := ((htaken.concat (.generate (i := 1) rfl hr'.first)).concat
    (.finish (i := 1) rfl (Service.secondPass_eq_ok_iff.mpr hr'.second))).concat (.receive rfl)
  have hrun := (hother.concat (.generate (i := 0) rfl hr.first)).concat
    (.finish (i := 0) rfl (Service.secondPass_eq_ok_iff.mpr hr.second))
  have haccounted := jobs_are_conserved hrun
  refine ⟨r, r', _, _, hrun, ?_, hjob, hjob', rfl, rfl, ?_, ?_, ?_⟩
  · rw [← hjob, ← hjob']
    rfl
  · exact haccounted.undisturbed (by simp [Event.Publishes]) r List.mem_cons_self
  · exact haccounted.undisturbed (by simp [Event.Publishes]) r'
      (List.mem_cons_of_mem r List.mem_cons_self)
  · exact haccounted.complete rfl (by simp [start, Worker.job?])

end PlotGrid
