import PlotGrid.Proofs.Overlay.Biomes
import PlotGrid.Proofs.Registry.Turn

/-!
# The two arms of a road

The segment of a road is placed along both axes, once straight and once turned. The turned arm is
turned the same way in all it shows: where its columns stand, what their voxels look like, and to
which side they link. So what belongs together in the segment belongs together in both arms.

- `Direction.step`, `Direction.step_quarterTurn`: a turn takes a step `(x, z)` to `(z, -x)`.
- `Slot.spot_turned_step`: columns beside each other stand beside each other after the turn.
- `ArmsMatch`: how the two arms show one cell of the segment.
- `road_arms_match`: all cells of a segment that fits are shown that way.
-/

namespace PlotGrid

/-- The step to the next position in one of the four main directions. -/
def Direction.step (d : Direction) : Int × Int :=
  if d = .south then (0, 1)
  else if d = .west then (-1, 0)
  else if d = .north then (0, -1)
  else if d = .east then (1, 0)
  else (0, 0)

/-- A turn of a direction is the turn of its step. -/
theorem Direction.step_quarterTurn (d : Direction) :
    d.quarterTurn.step = (d.step.2, -d.step.1) := by
  obtain ⟨i⟩ := d
  revert i
  decide

/-- **A step in the segment is the turned step in the turned arm.** -/
theorem Slot.spot_turned_step (g : Geometry) (c : Clip) (d : Direction) {x z x' z' : Nat}
    (hx : (x' : Int) = x + d.step.1) (hz : (z' : Int) = z + d.step.2) :
    Slot.spot g c .turned x' z' =
      ((Slot.spot g c .turned x z).1 + d.quarterTurn.step.1,
        (Slot.spot g c .turned x z).2 + d.quarterTurn.step.2) := by
  rw [Direction.step_quarterTurn]
  simp only [spot, offset, inset, Prod.mk.injEq]
  omega

/-- The road segment as the only fragment. -/
def Fragments.ofSideroad (c : Clip) : Fragments :=
  ⟨.none, some c, .none⟩

/-- A segment that is no wider than the road and no longer than the plot fits. -/
theorem Fragments.fits_ofSideroad {g : Geometry} {c : Clip} (hwidth : (c.width : Int) ≤ g.roadWidth)
    (hlength : (c.length : Int) ≤ g.plotWidth) (hheight : Coord.InRange c.height) :
    (ofSideroad c).Fits g := by
  intro s c' hc
  cases s with
  | plot => cases hc
  | crossing => cases hc
  | straight | turned =>
    obtain rfl := Option.some.inj hc
    exact ⟨hwidth, hlength, hheight⟩

/-- **What the two arms show of a cell of the road segment.** The straight arm shows its voxel and
the turned arm the turned voxel at the same index, both with the biome of the segment. What is next
to the cell in the segment is next to it in the turned arm, in the turned direction. The turned
voxel has on each turned side what the voxel has on the side. -/
structure ArmsMatch (reg : Registry) (g : Geometry) (c : Clip) (o : Overlay) (x y z : Nat) :
    Prop where
  straight : o.cell? (Slot.spot g c .straight x z).1 (Slot.spot g c .straight x z).2
    (o.anchors.roadY + y) = some (c.cell x y z)
  turned : o.cell? (Slot.spot g c .turned x z).1 (Slot.spot g c .turned x z).2
    (o.anchors.roadY + y) = some (reg.turn (c.cell x y z))
  biome : o.biome? (Slot.spot g c .turned x z).1 (Slot.spot g c .turned x z).2 =
      o.biome? (Slot.spot g c .straight x z).1 (Slot.spot g c .straight x z).2 ∧
    o.biome? (Slot.spot g c .straight x z).1 (Slot.spot g c .straight x z).2 = c.biomeAt x z
  position : ∀ d ∈ BlockType.links, ∀ x' z' : Nat, x' < c.width → z' < c.length →
    (x' : Int) = x + d.step.1 → (z' : Int) = z + d.step.2 →
    (Slot.spot g c .turned x' z').1 % (g.plotWidth + g.roadWidth) =
        ((Slot.spot g c .turned x z).1 + d.quarterTurn.step.1) % (g.plotWidth + g.roadWidth) ∧
      (Slot.spot g c .turned x' z').2 % (g.plotWidth + g.roadWidth) =
        ((Slot.spot g c .turned x z).2 + d.quarterTurn.step.2) % (g.plotWidth + g.roadWidth)
  beside : ∀ d ∈ BlockType.links, ∀ x' z' : Nat, x' < c.width → z' < c.length →
    (x' : Int) = x + d.step.1 → (z' : Int) = z + d.step.2 → (c.cell x' y z').isAir = false →
    o.cell? ((Slot.spot g c .turned x z).1 + d.quarterTurn.step.1)
      ((Slot.spot g c .turned x z).2 + d.quarterTurn.step.2) (o.anchors.roadY + y) =
        some (reg.turn (c.cell x' y z'))
  looks : ∀ t, reg.get? (c.cell x y z).block.id = some t → t.Connected →
    t.Decodes (c.cell x y z).block.state →
    t.LooksTurned (c.cell x y z).block.state (reg.turn (c.cell x y z)).block.state

/-- **The road arms match.** If a road segment that fits is the only fragment and the build does not
overflow, then the overlay shows every voxel of it that is not air in both arms, the one turned
against the other in position, in shape and with the same biome. -/
theorem road_arms_match {cfg : RegistryConfig} {reg : Registry}
    (hbuild : Registry.build cfg = .ok reg) {g : Geometry} {settings : SchematicSettings} {c : Clip}
    (h : g.Paved) (hwidth : (c.width : Int) ≤ g.roadWidth)
    (hlength : (c.length : Int) ≤ g.plotWidth) (hheight : Coord.InRange c.height)
    (hrun : (Overlay.build reg g settings (.ofSideroad c)).exec.1 ≠ .error .overflow) :
    ∃ o, (Overlay.build reg g settings (.ofSideroad c)).exec.1 = .ok o ∧
      ∀ x y z, x < c.width → y < c.height → z < c.length → (c.cell x y z).isAir = false →
        ArmsMatch reg g c o x y z := by
  have hf := Fragments.fits_ofSideroad hwidth hlength hheight
  obtain ⟨o, notices, hexec⟩ := Overlay.exists_build_eq h hrun
  have hturned {x y z : Nat} (hx : x < c.width) (hy : y < c.height) (hz : z < c.length)
      (hair : (c.cell x y z).isAir = false) :=
    Overlay.cell?_of_build h hf hexec (s := .turned) rfl hx hy hz hair
  refine ⟨o, congrArg Prod.fst hexec, fun x y z hx hy hz hair => ?_⟩
  constructor
  · exact Overlay.cell?_of_build h hf hexec (s := .straight) rfl hx hy hz hair
  · exact hturned hx hy hz hair
  · have hbiome := Overlay.biome?_of_build h hf hexec (s := .straight) rfl hx hz
    rw [hbiome]
    exact ⟨Overlay.biome?_of_build h hf hexec (s := .turned) rfl hx hz, rfl⟩
  · intro d _ x' z' _ _ hx' hz'
    rw [Slot.spot_turned_step g c d hx' hz']
    exact ⟨rfl, rfl⟩
  · intro d _ x' z' hlx hlz hx' hz' hair'
    have hbeside := hturned hlx hy hlz hair'
    rw [Slot.spot_turned_step g c d hx' hz'] at hbeside
    exact hbeside
  · intro t hget hconn hdecodes
    rw [Registry.turn_of_get? hget]
    exact hconn.looksTurned (Registry.sound_of_get? hbuild hget) hdecodes

/-- Two gates behind each other, the first one with a biome. -/
def Clip.gates : Clip :=
  ⟨1, 1, 2, #v[⟨⟨1, 173⟩, none⟩, ⟨⟨1, 0⟩, some 8⟩], #v[some 3, none]⟩

theorem BlockType.gate_connected : BlockType.gate.Connected :=
  ⟨by decide, by decide, by decide⟩

/-- The gate faces south on the straight arm and east on the turned one, and the other gate, which
stands to the south of it, stands to the east. -/
theorem road_arms_of_gates : ∃ reg o, Registry.build .gate = .ok reg ∧
    (Overlay.build reg .small .default (.ofSideroad .gates)).exec.1 = .ok o ∧
    o.cell? 0 1 (o.anchors.roadY + 0) = some ⟨⟨1, 173⟩, none⟩ ∧
    BlockType.gate.value? 173 "facing" = some "south" ∧
    o.cell? 1 0 (o.anchors.roadY + 0) = some (reg.turn ⟨⟨1, 173⟩, none⟩) ∧
    BlockType.gate.value? (reg.turn ⟨⟨1, 173⟩, none⟩).block.state "facing" = some "east" ∧
    o.biome? 1 0 = some 3 ∧
    o.cell? 2 0 (o.anchors.roadY + 0) = some (reg.turn ⟨⟨1, 0⟩, some 8⟩) := by
  obtain ⟨reg, hbuild, hget⟩ := RegistryConfig.gate_build
  have hrun : (Overlay.build reg .small .default (.ofSideroad .gates)).exec.1 ≠
      .error .overflow :=
    Overlay.ne_overflow_of_isOk (a := ⟨4, -1, 0⟩) Geometry.small_paved (by decide +kernel)
      (by decide +kernel)
  obtain ⟨o, ho, harms⟩ := road_arms_match hbuild (c := .gates) Geometry.small_paved (by decide)
    (by decide) (by decide) hrun
  have hgate := harms 0 0 0 (by decide) (by decide) (by decide) rfl
  have hlooks := hgate.looks .gate hget BlockType.gate_connected (by decide)
  refine ⟨reg, o, hbuild, ho, ?_, by decide, ?_, ?_, ?_, ?_⟩
  · exact hgate.straight
  · exact hgate.turned
  · exact hlooks.facing .south (by decide) (by decide)
  · exact hgate.biome.1.trans hgate.biome.2
  · exact hgate.beside .south (by decide) 0 1 (by decide) (by decide) rfl rfl rfl

end PlotGrid
