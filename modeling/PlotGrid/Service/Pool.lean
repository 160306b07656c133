import PlotGrid.Service.Chunk

/-!
# Worker pool

Chunk jobs wait in a queue, workers take them one by one, and the results wait to be received. A
job is in exactly one of these places at a time.

- `Job`, `JobResult`, `Service.process`: a job and what becomes of it.
- `Pool`: the jobs that wait, those at workers, and the results that wait.
- `Pool.submit`, `Pool.take`, `Pool.finish`, `Pool.receive`: the steps.
- `Service.run`: submit jobs, let them be worked off and receive all results.
-/

namespace PlotGrid

/-- A request to a pool; `populate` asks for the second pass too. -/
structure Job where
  cx : Int
  cz : Int
  id : Nat
  populate : Bool
  deriving Repr, DecidableEq

/-- A job with its answer. -/
structure JobResult where
  job : Job
  outcome : ChunkOutcome
  populated : Option Buffer

/-- Work off a job: the first pass, then the second if it is asked for and an area owns the
chunk. -/
def Service.process (s : Service) (world : World) (job : Job) : Logged Fault JobResult := do
  let outcome ← s.generate world job.cx job.cz
  let populated ←
    if job.populate && !outcome.isUnmanaged then s.populate world job.cx job.cz else pure none
  return ⟨job, outcome, populated⟩

/-- The jobs of a pool by where they are, and the results that have not been received. -/
structure Pool where
  waiting : List Job
  held : List Job
  results : List JobResult

namespace Pool

/-- A pool without jobs. -/
def idle : Pool :=
  ⟨[], [], []⟩

/-- Queue a job. -/
def submit (p : Pool) (job : Job) : Pool :=
  { p with waiting := p.waiting ++ [job] }

/-- A worker takes the first job of the queue. -/
def take (p : Pool) : Pool :=
  match p.waiting with
  | [] => p
  | job :: rest => { p with waiting := rest, held := p.held ++ [job] }

/-- A worker hands in the result of a job that it holds. -/
def finish (p : Pool) (job : Job) (r : JobResult) : Pool :=
  { p with held := p.held.erase job, results := p.results ++ [r] }

/-- The host receives the first result. -/
def receive (p : Pool) : Option (JobResult × Pool) :=
  match p.results with
  | [] => none
  | r :: rest => some (r, { p with results := rest })

end Pool

namespace Service

/-- Work off the first job of the queue. -/
def workOne (s : Service) (world : World) (p : Pool) : Logged Fault Pool :=
  match p.waiting with
  | [] => pure p
  | job :: _ => do
    let r ← s.process world job
    return p.take.finish job r

/-- Receive results as long as there are any, at most a number of them. -/
def receiveAll : Nat → Pool → List JobResult × Pool
  | 0, p => ([], p)
  | n + 1, p =>
    match p.receive with
    | none => ([], p)
    | some (r, p) =>
      let (rs, p) := receiveAll n p
      (r :: rs, p)

/-- Submit jobs, let a number of workers work them off in order, and receive all results. The pool
that is left is given too. -/
def run (s : Service) (world : World) (workers : Nat) (jobs : List Job) :
    Logged Fault (List JobResult × Pool) := do
  Logged.report .info s!"chunk runtime started with {max workers 1} worker(s)"
  let queued := jobs.foldl Pool.submit .idle
  let worked ← jobs.foldlM (fun p _ => s.workOne world p) queued
  return receiveAll jobs.length worked

end Service

end PlotGrid
