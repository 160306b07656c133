import PlotGrid.Proofs.Area.History
import PlotGrid.Proofs.Service.Answers

/-!
# Crews of workers

The workers of a pool act on their own: each takes a job, makes the first pass, makes the second
and hands in the result. Meanwhile the host submits jobs, receives results and publishes overlays.
All orders of these steps are possible. A pass looks at the areas once, when it starts, so the
whole pass is one step.

- `Worker`, `Crew`, `Event`: the workers, the system and what happens in it.
- `Crew.Step`, `Crew.Run`: one step, and every interleaving of steps.
- `Service.after`, `Crew.Run.service_eq`: the areas depend on what was published alone.
- `Crew.Run.publications`, `Crew.Run.solo`: runs of publications and of one job.
-/

namespace PlotGrid

/-! ## The system -/

/-- A worker by how far it is with its job. -/
inductive Worker
  | idle
  /-- No pass is made. -/
  | fresh (job : Job)
  /-- The first pass is made. -/
  | halfway (job : Job) (outcome : ChunkOutcome)

/-- The job of a worker. -/
def Worker.job? : Worker → Option Job
  | .idle => none
  | .fresh job | .halfway job _ => some job

/-- What happens in a system; workers and areas are told by their index. -/
inductive Event
  | submit (job : Job)
  | take (worker : Nat) (job : Job)
  | generate (worker : Nat) (outcome : ChunkOutcome)
  | finish (worker : Nat) (r : JobResult)
  | receive (r : JobResult)
  | publish (area : Nat) (call : Area.Call)

namespace Event

/-- An overlay is published. -/
def Publishes : Event → Prop
  | .publish .. => True
  | _ => False

/-- The job that is submitted. -/
def submitted? : Event → Option Job
  | .submit job => some job
  | _ => none

/-- The result that is received. -/
def received? : Event → Option JobResult
  | .receive r => some r
  | _ => none

/-- The jobs that were submitted, the first first. -/
def submitted (events : List Event) : List Job :=
  events.filterMap submitted?

/-- The results that were received, the first first. -/
def received (events : List Event) : List JobResult :=
  events.filterMap received?

theorem received_concat (events : List Event) (e : Event) :
    received (events ++ [e]) = received events ++ e.received?.toList := by
  rw [received, List.filterMap_append, List.filterMap_cons, List.filterMap_nil, received]
  cases e.received? <;> rfl

theorem submitted_concat (events : List Event) (e : Event) :
    submitted (events ++ [e]) = submitted events ++ e.submitted?.toList := by
  rw [submitted, List.filterMap_append, List.filterMap_cons, List.filterMap_nil, submitted]
  cases e.submitted? <;> rfl

end Event

/-- A service, its pool, and the workers of the pool. -/
structure Crew where
  service : Service
  pool : Pool
  workers : List Worker

/-- Publish in an area. -/
def Service.publish (s : Service) (area : Nat) (call : Area.Call) : Service :=
  { s with atlas := s.atlas.modify area fun a => a.next call }

namespace Crew

/-- A pool without jobs, and at least one worker. -/
def start (s : Service) (workers : Nat) : Crew :=
  ⟨s, .idle, .replicate (max workers 1) .idle⟩

/-- What one step does. A pass is a step if it returns. -/
inductive Step (world : World) : Crew → Event → Crew → Prop
  | submit (c : Crew) (job : Job) :
    Step world c (.submit job) { c with pool := c.pool.submit job }
  | take {c : Crew} {i : Nat} {job : Job} {rest : List Job} (hi : c.workers[i]? = some .idle)
      (hjob : c.pool.waiting = job :: rest) :
    Step world c (.take i job)
      { c with pool := c.pool.take, workers := c.workers.set i (.fresh job) }
  | generate {c : Crew} {i : Nat} {job : Job} {outcome : ChunkOutcome}
      (hi : c.workers[i]? = some (.fresh job))
      (hpass : (c.service.generate world job.cx job.cz).exec.1 = .ok outcome) :
    Step world c (.generate i outcome) { c with workers := c.workers.set i (.halfway job outcome) }
  | finish {c : Crew} {i : Nat} {r : JobResult}
      (hi : c.workers[i]? = some (.halfway r.job r.outcome))
      (hpass : (c.service.secondPass world r.job r.outcome).exec.1 = .ok r.populated) :
    Step world c (.finish i r)
      { c with pool := c.pool.finish r.job r, workers := c.workers.set i .idle }
  | receive {c : Crew} {r : JobResult} {pool : Pool} (hpool : c.pool.receive = some (r, pool)) :
    Step world c (.receive r) { c with pool }
  | publish (c : Crew) (area : Nat) (call : Area.Call) :
    Step world c (.publish area call) { c with service := c.service.publish area call }

/-- A list of steps, one after the other. -/
inductive Run (world : World) : Crew → List Event → Crew → Prop
  | nil (c : Crew) : Run world c [] c
  | concat {c d d' : Crew} {events : List Event} {e : Event} (hrun : Run world c events d)
      (hstep : Step world d e d') : Run world c (events ++ [e]) d'

end Crew

/-! ## Publications -/

namespace Service

/-- The service after an event. -/
def next (s : Service) : Event → Service
  | .publish area call => s.publish area call
  | _ => s

/-- The service after a list of events. -/
def after (s : Service) (events : List Event) : Service :=
  events.foldl next s

theorem after_append (s : Service) (events events' : List Event) :
    s.after (events ++ events') = (s.after events).after events' :=
  List.foldl_append

theorem after_of_quiet (s : Service) {events : List Event} (h : ∀ e ∈ events, ¬ e.Publishes) :
    s.after events = s := by
  induction events with
  | nil => rfl
  | cons e rest ih =>
    have hnext : s.next e = s := by
      cases e with
      | publish area call => exact absurd trivial (h _ List.mem_cons_self)
      | _ => rfl
    show (s.next e).after rest = s
    rw [hnext]
    exact ih fun e' he' => h e' (List.mem_cons_of_mem e he')

end Service

namespace Crew

variable {world : World} {c d d' : Crew} {events events' : List Event} {e : Event}

theorem Step.service_eq (h : Step world c e d) : d.service = c.service.next e := by
  cases h <;> rfl

namespace Run

/-- **The areas depend on what was published alone.** -/
theorem service_eq (h : Run world c events d) : d.service = c.service.after events := by
  induction h with
  | nil => rfl
  | concat hrun hstep ih =>
    rw [Service.after_append, ← ih]
    exact hstep.service_eq

theorem append (h : Run world c events d) (h' : Run world d events' d') :
    Run world c (events ++ events') d' := by
  induction h' with
  | nil =>
    rw [List.append_nil]
    exact h
  | concat _ hstep ih =>
    rw [← List.append_assoc]
    exact .concat ih hstep

theorem single (h : Step world c e d) : Run world c [e] d :=
  .concat (.nil c) h

/-- Overlays can be published at any time. -/
theorem publications (world : World) (c : Crew) (events : List Event)
    (h : ∀ e ∈ events, e.Publishes) :
    Run world c events { c with service := c.service.after events } := by
  induction events using List.reverseRecOn with
  | nil => exact .nil c
  | append_singleton events e ih =>
    have hrun := ih fun e' he' => h e' (List.mem_append_left [e] he')
    cases e with
    | publish area call =>
      refine .concat hrun ?_
      rw [Service.after_append]
      exact .publish _ area call
    | _ => exact absurd (h _ (List.mem_append_right events List.mem_cons_self)) id

/-- An idle worker can do the first job of the queue, whatever is published between the passes. -/
theorem solo (late : List Event) {i : Nat} {r : JobResult} {rest : List Job}
    (hi : c.workers[i]? = some .idle) (hjob : c.pool.waiting = r.job :: rest)
    (hlate : ∀ e ∈ late, e.Publishes)
    (hfirst : (c.service.generate world r.job.cx r.job.cz).exec.1 = .ok r.outcome)
    (hsecond : ((c.service.after late).secondPass world r.job r.outcome).exec.1 =
      .ok r.populated) :
    Run world c (.take i r.job :: .generate i r.outcome :: late ++ [.finish i r])
      { c with service := c.service.after late, pool := c.pool.take.finish r.job r } := by
  have hidle : c.workers.set i .idle = c.workers := by
    obtain ⟨hlt, hidle⟩ := List.getElem?_eq_some_iff.mp hi
    rw [← hidle, List.set_getElem_self]
  have hset (l : List Worker) (w : Worker) (hl : i < l.length) : (l.set i w)[i]? = some w :=
    List.getElem?_set_self hl
  have hlt : i < c.workers.length := (List.getElem?_eq_some_iff.mp hi).1
  have htaken : Run world c _ _ := single (.take hi hjob)
  have hhalf := (htaken.concat (.generate (hset _ _ hlt) hfirst)).append
    (publications world _ late hlate)
  have hdone := hhalf.concat (.finish (r := r) (hset _ _ (by simpa using hlt)) hsecond)
  -- the worker is idle again, so the list of workers is the one at the start
  simp only [List.set_set, hidle] at hdone
  simpa using hdone

end Run

end Crew

end PlotGrid
