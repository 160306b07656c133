import PlotGrid.Area.Generate

/-!
# Chunk requests

A host asks for chunks. The area that owns a chunk fills a buffer for it; a generator that stops
at a fault is reported and what it wrote until then is kept.

- `Hooks`: what the host does before and after the generator.
- `Service`: areas, generator and hooks.
- `ChunkOutcome`, `Service.generate`: the first pass for a chunk.
- `Service.populate`: the second pass for a chunk.
- `Service.generateMany`: the first pass for several chunks.
-/

namespace PlotGrid

/-- What the host does around a generator. The first may keep the generator from running. -/
structure Hooks where
  before : Int → Int → Fill Bool
  after : Int → Int → Fill Unit

/-- Hooks that do nothing. -/
def Hooks.none : Hooks :=
  ⟨fun _ _ => pure false, fun _ _ => pure ()⟩

/-- How chunk requests are answered. -/
structure Service where
  atlas : Atlas
  generator : Generator := .hybrid
  hooks : Hooks := .none
  trackBiomes : Bool := true

/-- The answer to a chunk request. -/
inductive ChunkOutcome
  /-- No area owns the chunk. -/
  | unmanaged
  /-- The hooks kept the generator from running. -/
  | skipped (buffer : Buffer)
  | generated (buffer : Buffer)

namespace ChunkOutcome

/-- The buffer of an answer. -/
def buffer? : ChunkOutcome → Option Buffer
  | .unmanaged => none
  | .skipped b | .generated b => some b

/-- No area owns the chunk. -/
def isUnmanaged : ChunkOutcome → Bool
  | .unmanaged => true
  | _ => false

end ChunkOutcome

namespace Service

/-- The notice for a generator that stopped in the first pass. -/
def generateNotice (a : Area) (cx cz : Int) (f : Fault) : String :=
  s!"{a.label}: generator failed on chunk ({cx}, {cz}), keeping partial output: {f.text}"

/-- The notice for a generator that stopped in the second pass. -/
def populateNotice (a : Area) (cx cz : Int) (f : Fault) : String :=
  s!"{a.label}: populate failed on chunk ({cx}, {cz}): {f.text}"

/-- The first pass of an area for a chunk. A fault of the generator is reported, a fault of the
hooks is not caught. -/
def generateIn (s : Service) (a : Area) (world : World) (cx cz : Int) :
    Logged Fault ChunkOutcome := do
  let blank ← Logged.ofExcept
    (Buffer.forChunk? cx cz world.minHeight world.maxHeight s.trackBiomes)
  let (stop, prepared) := (s.hooks.before cx cz).exec blank
  if ← Logged.ofExcept stop then return .skipped prepared
  let (result, filled) := (s.generator.generate a).exec prepared
  match result with
  | .ok () => pure ()
  | .error f => Logged.report .error (generateNotice a cx cz f)
  let (result, finished) := (s.hooks.after cx cz).exec filled
  Logged.ofExcept result
  return .generated finished

/-- The first pass for a chunk. -/
def generate (s : Service) (world : World) (cx cz : Int) : Logged Fault ChunkOutcome :=
  match s.atlas.forChunk? world.name cx cz with
  | none => pure .unmanaged
  | some a => s.generateIn a world cx cz

/-- The second pass of an area for a chunk: a buffer if anything was written. -/
def populateIn (s : Service) (a : Area) (world : World) (cx cz : Int) :
    Logged Fault (Option Buffer) := do
  let blank ← Logged.ofExcept (Buffer.forChunk? cx cz world.minHeight world.maxHeight false)
  let (result, filled) := (s.generator.populate a).exec blank
  match result with
  | .ok wrote => return if wrote then some filled else none
  | .error f =>
    Logged.report .error (populateNotice a cx cz f)
    return if filled.isEmpty then none else some filled

/-- The second pass for a chunk. -/
def populate (s : Service) (world : World) (cx cz : Int) : Logged Fault (Option Buffer) :=
  match s.atlas.forChunk? world.name cx cz with
  | none => pure none
  | some a => s.populateIn a world cx cz

/-- The first pass for several chunks, in their order. -/
def generateMany (s : Service) (world : World) (chunks : List (Int × Int)) :
    Logged Fault (List ((Int × Int) × ChunkOutcome)) :=
  chunks.mapM fun c => do return (c, ← s.generate world c.1 c.2)

end Service

end PlotGrid
