import PlotGrid.Proofs.Outcome
import PlotGrid.Service.Pool

/-!
# Answers to chunk requests

What a request for one of the two passes ends with, whatever was reported before it: the buffer
that the generator was given as it left it, also when the generator stopped. Only a buffer that
cannot be had and the hooks of the host make a request fail.

- `Service.steady_generate`, `Service.steady_populate`: requests do not look at notices.
- `Service.yields_generate`, `Service.yields_generate_error`: requests for the first pass.
- `Service.yields_populate`, `Service.yields_populate_error`: requests for the second pass.
- `Service.secondPass`, `Service.process_eq_ok_iff`: a job is its two passes.
- `Service.Answers`, `Service.process_eq_ok_iff_answers`: a result against direct requests.
- `Service.exists_answers`: without hooks a job has a result if its chunk has a buffer.
-/

namespace PlotGrid.Service

open Logged (Yields Steady)

variable {s : Service} {a : Area} {world : World} {cx cz : Int} {b : Buffer} {f : Fault}

/-! ## The first pass -/

theorem steady_generateIn (s : Service) (a : Area) (world : World) (cx cz : Int) :
    (s.generateIn a world cx cz).Steady := by
  refine .bind (.ofExcept _) fun blank => .bind (.ofExcept _) fun stop => ?_
  dsimp only
  split
  · exact .ok _
  · split
    · exact .bind (.ofExcept _) fun _ => .ok _
    · exact .bind (.report _ _) fun _ => .bind (.ofExcept _) fun _ => .ok _

theorem steady_generate (s : Service) (world : World) (cx cz : Int) :
    (s.generate world cx cz).Steady := by
  rw [generate]
  split
  · exact .ok _
  · exact s.steady_generateIn _ world cx cz

/-- Without hooks the first pass answers with what the generator left. -/
theorem yields_generate (hhooks : s.hooks = .none)
    (ha : s.atlas.forChunk? world.name cx cz = some a)
    (hb : Buffer.forChunk? cx cz world.minHeight world.maxHeight s.trackBiomes = .ok b) :
    (s.generate world cx cz).Yields (.ok (.generated ((s.generator.generate a).exec b).2)) := by
  rw [generate, ha]
  dsimp only
  rw [generateIn, hhooks, hb]
  refine .bind (.ofExcept (.ok b)) (.bind (.ofExcept (.ok false)) ?_)
  rw [if_neg Bool.false_ne_true]
  dsimp only
  -- a fault of the generator is only reported
  split
  · exact .bind (.ofExcept (.ok ())) (.ok _)
  · exact .bind (.report _ _) (.bind (.ofExcept (.ok ())) (.ok _))

/-- Without a buffer there is no first pass. -/
theorem yields_generate_error (ha : s.atlas.forChunk? world.name cx cz = some a)
    (hb : Buffer.forChunk? cx cz world.minHeight world.maxHeight s.trackBiomes = .error f) :
    (s.generate world cx cz).Yields (.error f) := by
  rw [generate, ha]
  dsimp only
  rw [generateIn, hb]
  exact .bind_error (.ofExcept (.error f)) _

/-! ## The second pass -/

/-- What the second pass answers: the buffer if the generator wrote to it. A generator that stopped
wrote if it has reached a height. -/
def written? : Checked Bool × Buffer → Option Buffer
  | (.ok wrote, b) => if wrote then some b else none
  | (.error _, b) => if b.isEmpty then none else some b

/-- The second pass answers with what the generator left. -/
theorem yields_populate (ha : s.atlas.forChunk? world.name cx cz = some a)
    (hb : Buffer.forChunk? cx cz world.minHeight world.maxHeight false = .ok b) :
    (s.populate world cx cz).Yields (.ok (written? ((s.generator.populate a).exec b))) := by
  rw [populate, ha]
  dsimp only
  rw [populateIn, hb]
  refine .bind (.ofExcept (.ok b)) ?_
  obtain ⟨result, filled⟩ := (s.generator.populate a).exec b
  cases result with
  | ok wrote => exact .ok _
  | error f => exact .bind (.report _ _) (.ok _)

/-- Without a buffer there is no second pass. -/
theorem yields_populate_error (ha : s.atlas.forChunk? world.name cx cz = some a)
    (hb : Buffer.forChunk? cx cz world.minHeight world.maxHeight false = .error f) :
    (s.populate world cx cz).Yields (.error f) := by
  rw [populate, ha]
  dsimp only
  rw [populateIn, hb]
  exact .bind_error (.ofExcept (.error f)) _

theorem steady_populate (s : Service) (world : World) (cx cz : Int) :
    (s.populate world cx cz).Steady := by
  cases ha : s.atlas.forChunk? world.name cx cz with
  | none =>
    rw [populate, ha]
    exact .ok _
  | some a =>
    cases hb : Buffer.forChunk? cx cz world.minHeight world.maxHeight false with
    | error f => exact ⟨_, yields_populate_error ha hb⟩
    | ok b => exact ⟨_, yields_populate ha hb⟩

/-! ## Both passes of a job -/

/-- The second pass of a job: it is made if it is asked for and the first found an area. -/
def secondPass (s : Service) (world : World) (job : Job) (outcome : ChunkOutcome) :
    Logged Fault (Option Buffer) :=
  if job.populate && !outcome.isUnmanaged then s.populate world job.cx job.cz else pure none

theorem steady_secondPass (s : Service) (world : World) (job : Job) (outcome : ChunkOutcome) :
    (s.secondPass world job outcome).Steady := by
  rw [secondPass]
  split
  · exact s.steady_populate world job.cx job.cz
  · exact .ok none

theorem process_eq (s : Service) (world : World) (job : Job) :
    s.process world job = do
      let outcome ← s.generate world job.cx job.cz
      let populated ← s.secondPass world job outcome
      return ⟨job, outcome, populated⟩ := by
  unfold process secondPass
  congr 1
  funext outcome
  split
  all_goals rfl

/-- **A job is its two passes**, one after the other. -/
theorem process_eq_ok_iff {job : Job} {r : JobResult} :
    (s.process world job).exec.1 = .ok r ↔
      r.job = job ∧ (s.generate world job.cx job.cz).exec.1 = .ok r.outcome ∧
        (s.secondPass world job r.outcome).exec.1 = .ok r.populated := by
  rw [process_eq, (s.steady_generate world job.cx job.cz).bind_eq_ok_iff fun outcome =>
    (s.steady_secondPass world job outcome).bind fun populated => .ok _]
  simp only [(s.steady_secondPass world job _).bind_eq_ok_iff fun populated => .ok _,
    (Logged.Yields.ok _).exec_eq, Except.ok.injEq]
  constructor
  · rintro ⟨outcome, houtcome, populated, hpopulated, rfl⟩
    exact ⟨rfl, houtcome, hpopulated⟩
  · rintro ⟨rfl, houtcome, hpopulated⟩
    exact ⟨_, houtcome, _, hpopulated, rfl⟩

/-- The result is what direct requests for the chunk of its job give: one for the first pass, and
one for the second if it was asked for and an area owns the chunk. -/
structure Answers (s : Service) (world : World) (r : JobResult) : Prop where
  first : (s.generate world r.job.cx r.job.cz).exec.1 = .ok r.outcome
  second : if r.job.populate && !r.outcome.isUnmanaged
    then (s.populate world r.job.cx r.job.cz).exec.1 = .ok r.populated
    else r.populated = none

theorem secondPass_eq_ok_iff {job : Job} {outcome : ChunkOutcome} {populated : Option Buffer} :
    (s.secondPass world job outcome).exec.1 = .ok populated ↔
      if job.populate && !outcome.isUnmanaged
      then (s.populate world job.cx job.cz).exec.1 = .ok populated
      else populated = none := by
  rw [secondPass]
  split
  · exact Iff.rfl
  · rw [(Logged.Yields.ok none).exec_eq, Except.ok.injEq]
    exact eq_comm

/-- **A job is worked off iff its result is that of direct requests.** -/
theorem process_eq_ok_iff_answers {r : JobResult} :
    (s.process world r.job).exec.1 = .ok r ↔ s.Answers world r := by
  rw [process_eq_ok_iff, secondPass_eq_ok_iff]
  constructor
  · rintro ⟨-, hfirst, hsecond⟩
    exact ⟨hfirst, hsecond⟩
  · exact fun h => ⟨rfl, h.first, h.second⟩

/-- **Without hooks a job has a result if its chunk has a buffer.** -/
theorem exists_answers (world : World) (hhooks : s.hooks = .none) (job : Job)
    (hbuffer : ∀ track, ∃ b,
      Buffer.forChunk? job.cx job.cz world.minHeight world.maxHeight track = .ok b) :
    ∃ r, r.job = job ∧ s.Answers world r := by
  cases ha : s.atlas.forChunk? world.name job.cx job.cz with
  | none =>
    have hfirst : (s.generate world job.cx job.cz).exec.1 = .ok .unmanaged := by
      rw [generate, ha]
      rfl
    exact ⟨⟨job, .unmanaged, none⟩, rfl, hfirst, by simp [ChunkOutcome.isUnmanaged]⟩
  | some a =>
    obtain ⟨b, hb⟩ := hbuffer s.trackBiomes
    obtain ⟨b', hb'⟩ := hbuffer false
    have hfirst := (yields_generate hhooks ha hb).exec_eq
    have hsecond := (yields_populate ha hb').exec_eq
    by_cases hpopulate : job.populate = true
    · exact ⟨⟨job, _, _⟩, rfl, hfirst, by simpa [hpopulate, ChunkOutcome.isUnmanaged] using hsecond⟩
    · exact ⟨⟨job, _, none⟩, rfl, hfirst, by simp [hpopulate]⟩

end PlotGrid.Service
