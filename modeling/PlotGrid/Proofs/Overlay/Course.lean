import PlotGrid.Proofs.Grid.Layout
import PlotGrid.Proofs.Overlay.Drafting

/-!
# The course of a build

The placements of fragments are computed sum by sum, and the build stops at the first sum that is
no coordinate. When it does not stop, the placements are given by closed formulas: each column of
a fragment goes to the spot of its slot, each voxel to the base of its slot plus its own height.

- `Plan`: what decides where fragments go.
- `Slot.spot`, `Slot.base`, `Slot.columnHeight`: where a column of a fragment goes, where its
  voxels start, how high its column is made.
- `Fragments.course`, `Fragments.leaves?`: the placements by formulas, and what they leave behind.
- `Fragments.placements_eq_course`: the computed placements are those, if none is a fault.
- `Overlay.build_eq_ok`: what a build that does not stop gives and reports.
- `Overlay.columnSize?_of_build`, `Overlay.held?_of_build`: its columns and cells, by the course.
-/

namespace PlotGrid

/-- What decides where fragments go. -/
structure Plan where
  geometry : Geometry
  settings : SchematicSettings
  anchors : Anchors

/-- Room above road fragments for a road that is higher than its wall. -/
def Plan.extra (plan : Plan) : Int :=
  if plan.settings.useWall then 0
  else max (plan.geometry.roadHeight - plan.geometry.wallHeight) 0

namespace Slot

/-- The fragment that fills a slot. -/
def clip? (f : Fragments) : Slot → Option Clip
  | .plot => f.plot
  | .straight | .turned => f.sideroad
  | .crossing => f.intersection

/-- The fragment is turned in this slot. -/
def isTurned : Slot → Bool
  | .turned => true
  | .plot | .straight | .crossing => false

/-- A voxel as it is shown in a slot. -/
def shown (reg : Registry) (s : Slot) (v : Voxel) : Voxel :=
  if s.isTurned then reg.turn v else v

/-- The index at which the voxels of a slot start. -/
def base (a : Anchors) : Slot → Int
  | .plot => a.plotY
  | .straight | .turned | .crossing => a.roadY

/-- The room on the near sides of a fragment that does not have the full size. -/
def inset (g : Geometry) (c : Clip) : Slot → Int × Int
  | .plot => ((g.plotWidth - c.coordWidth).tdiv 2, (g.plotWidth - c.coordLength).tdiv 2)
  | .straight | .turned | .crossing => (0, 0)

/-- Where the columns of a fragment go. -/
def clipTarget (g : Geometry) (c : Clip) : Slot → ColumnTarget
  | .plot => g.plotTarget (inset g c .plot).1 (inset g c .plot).2
  | .straight => g.roadTarget
  | .turned => g.turnedTarget
  | .crossing => g.crossingTarget

/-- The spot of a column of a fragment, before it is wrapped around the cell. -/
def spot (g : Geometry) (c : Clip) (s : Slot) (x z : Nat) : Int × Int :=
  s.offset g (x + (s.inset g c).1) (z + (s.inset g c).2)

/-- The height of the columns that a fragment makes. -/
def columnHeight (plan : Plan) (c : Clip) : Slot → Int
  | .plot => plan.anchors.plotY + c.coordHeight
  | .straight | .turned | .crossing => plan.anchors.roadY + c.coordHeight + plan.extra

/-- The placement of a voxel of a fragment. -/
def voxelPlacement (plan : Plan) (c : Clip) (x z : Nat) (cell : Nat × Voxel) (s : Slot) :
    Placement :=
  .voxel (s.spot plan.geometry c x z).1 (cell.1 + s.base plan.anchors)
    (s.spot plan.geometry c x z).2 cell.2 s.isTurned (s.columnHeight plan c).toNat

/-- The placement of a biome of a fragment. -/
def biomePlacement (plan : Plan) (c : Clip) (x z : Nat) (s : Slot) : Placement :=
  .biome (s.spot plan.geometry c x z).1 (s.spot plan.geometry c x z).2 (c.biomeAt x z)

end Slot

/-- The placements of a fragment in its slots. -/
def Clip.course (c : Clip) (plan : Plan) (slots : List Slot) : List Placement :=
  c.columnList.flatMap fun (x, z) =>
    ((c.solids x z).flatMap fun cell => slots.map (Slot.voxelPlacement plan c x z cell)) ++
      slots.map (Slot.biomePlacement plan c x z)

/-- The fragments that are placed, each with its slots. -/
def Fragments.fillings (f : Fragments) (g : Geometry) : List (Clip × List Slot) :=
  (f.plot.map fun c => (c, [Slot.plot])).toList ++
    if f.hasRoad g then
      (f.sideroad.map fun c => (c, [Slot.straight, Slot.turned])).toList ++
        (f.intersection.map fun c => (c, [Slot.crossing])).toList
    else []

/-- The placements of a set of fragments. -/
def Fragments.course (f : Fragments) (plan : Plan) : List Placement :=
  (f.fillings plan.geometry).flatMap fun filling => filling.1.course plan filling.2

/-- The voxel that the course leaves at an index of the column with a number: the last one that is
placed there, if the first placement to the column makes it high enough. -/
def Fragments.leaves? (f : Fragments) (reg : Registry) (plan : Plan) (size : Int) (key i : Nat) :
    Option Voxel :=
  ((f.course plan).findSome? (Placement.heightAt? size key)).bind fun n =>
    if i < n then (f.course plan).reverse.findSome? (Placement.voxelAt? reg size key i) else .none

/-! ## Single placements -/

namespace Slot

variable {g : Geometry} {c : Clip} {s : Slot} {x z : Nat} {n : Int}

/-- A target that could be computed is the spot. -/
theorem eq_spot_fst (h : (s.clipTarget g c x z).1 = .ok n) : n = (s.spot g c x z).1 := by
  have hlead : g.lead = g.shift + g.oddShift := rfl
  cases s with
  | plot =>
    obtain ⟨-, -, rfl⟩ := Coord.sum_pair_eq_ok_iff.mp h
    simp only [spot, offset]
    omega
  | straight =>
    obtain ⟨-, rfl⟩ := Coord.sub_eq_ok_iff.mp h
    simp only [spot, offset, inset]
    omega
  | turned =>
    obtain ⟨-, -, rfl⟩ := Coord.sum_pair_eq_ok_iff.mp h
    simp only [spot, offset, inset]
    omega
  | crossing =>
    obtain ⟨-, rfl⟩ := Coord.sub_eq_ok_iff.mp h
    simp only [spot, offset, inset]
    omega

theorem eq_spot_snd (h : (s.clipTarget g c x z).2 = .ok n) : n = (s.spot g c x z).2 := by
  have hlead : g.lead = g.shift + g.oddShift := rfl
  cases s with
  | plot =>
    obtain ⟨-, -, rfl⟩ := Coord.sum_pair_eq_ok_iff.mp h
    simp only [spot, offset]
    omega
  | straight =>
    obtain ⟨-, -, rfl⟩ := Coord.sum_pair_eq_ok_iff.mp h
    simp only [spot, offset, inset]
    omega
  | turned =>
    obtain ⟨m, hm, hn⟩ := Checked.bind_eq_ok_iff.mp h
    obtain ⟨-, rfl⟩ := Coord.sub_eq_ok_iff.mp hm
    obtain ⟨-, rfl⟩ := Coord.add_eq_ok_iff.mp hn
    simp only [spot, offset, inset]
    omega
  | crossing =>
    obtain ⟨-, rfl⟩ := Coord.sub_eq_ok_iff.mp h
    simp only [spot, offset, inset]
    omega

end Slot

namespace Placement

variable {plan : Plan} {c : Clip} {s : Slot} {x z : Nat} {p : Placement}

/-- A placement of a voxel that could be computed is given by the formulas. -/
theorem voxelAt_eq {cell : Nat × Voxel}
    (h : voxelAt (s.clipTarget plan.geometry c x z).1 (Coord.add cell.1 (s.base plan.anchors))
      (s.clipTarget plan.geometry c x z).2 cell.2 s.isTurned (s.columnHeight plan c).toNat
        = .ok p) :
    p = Slot.voxelPlacement plan c x z cell s := by
  obtain ⟨X, hX, h⟩ := Checked.bind_eq_ok_iff.mp h
  obtain ⟨Y, hY, h⟩ := Checked.bind_eq_ok_iff.mp h
  obtain ⟨Z, hZ, h⟩ := Checked.bind_eq_ok_iff.mp h
  obtain ⟨-, rfl⟩ := Coord.add_eq_ok_iff.mp hY
  cases h
  rw [Slot.eq_spot_fst hX, Slot.eq_spot_snd hZ]
  rfl

theorem biomeAt_eq
    (h : biomeAt (s.clipTarget plan.geometry c x z).1 (s.clipTarget plan.geometry c x z).2
      (c.biomeAt x z) = .ok p) :
    p = Slot.biomePlacement plan c x z s := by
  obtain ⟨X, hX, h⟩ := Checked.bind_eq_ok_iff.mp h
  obtain ⟨Z, hZ, h⟩ := Checked.bind_eq_ok_iff.mp h
  cases h
  rw [Slot.eq_spot_fst hX, Slot.eq_spot_snd hZ]
  rfl

end Placement

/-! ## Lists of placements -/

/-- No entry of a list is a fault. -/
def NoFault {α : Type} (list : List (Checked α)) : Prop :=
  ∀ r ∈ list, ∃ a, r = .ok a

theorem NoFault.of_orFault {α : Type} {r : Checked (List (Checked α))} (h : NoFault (orFault r)) :
    ∃ list, r = .ok list ∧ orFault r = list ∧ NoFault list := by
  cases r with
  | ok list => exact ⟨list, rfl, rfl, h⟩
  | error f =>
    obtain ⟨a, ha⟩ := h (.error f) (List.mem_singleton.mpr rfl)
    cases ha

theorem NoFault.append_eq {α : Type} {l₁ l₂ : List (Checked α)} {e₁ e₂ : List α}
    (h : NoFault (l₁ ++ l₂)) (h₁ : NoFault l₁ → l₁ = e₁.map .ok)
    (h₂ : NoFault l₂ → l₂ = e₂.map .ok) : l₁ ++ l₂ = (e₁ ++ e₂).map .ok := by
  rw [List.map_append, ← h₁ fun r hr => h r (List.mem_append_left l₂ hr),
    ← h₂ fun r hr => h r (List.mem_append_right l₁ hr)]

/-- A list without faults whose results are known. -/
theorem NoFault.map_eq {α β : Type} {l : List α} {f : α → Checked β} {e : α → β}
    (h : NoFault (l.map f)) (he : ∀ a ∈ l, ∀ b, f a = .ok b → b = e a) :
    l.map f = (l.map e).map .ok := by
  rw [List.map_map]
  refine List.map_congr_left ?_
  intro a ha
  obtain ⟨b, hb⟩ := h (f a) (List.mem_map_of_mem ha)
  rw [hb, he a ha b hb]
  rfl

theorem NoFault.flatMap_eq {α β : Type} {l : List α} {f : α → List (Checked β)}
    {e : α → List β} (h : NoFault (l.flatMap f))
    (he : ∀ a ∈ l, NoFault (f a) → f a = (e a).map .ok) :
    l.flatMap f = (l.flatMap e).map .ok := by
  induction l with
  | nil => rfl
  | cons a rest ih =>
    rw [List.flatMap_cons] at h ⊢
    exact h.append_eq (he a List.mem_cons_self) fun hrest =>
      ih hrest fun b hb => he b (List.mem_cons_of_mem a hb)

/-- The placements of a fragment are those of its voxels and biomes. -/
theorem Clip.of_mem_course {c : Clip} {plan : Plan} {slots : List Slot} {p : Placement}
    (hp : p ∈ c.course plan slots) :
    (∃ s ∈ slots, ∃ x z, ∃ cell ∈ c.solids x z, p = s.voxelPlacement plan c x z cell) ∨
      ∃ x z tag, p = .biome x z tag := by
  obtain ⟨⟨x, z⟩, -, hp⟩ := List.mem_flatMap.mp hp
  rcases List.mem_append.mp hp with hvoxel | hbiome
  · obtain ⟨cell, hcell, hp⟩ := List.mem_flatMap.mp hvoxel
    obtain ⟨s, hs, rfl⟩ := List.mem_map.mp hp
    exact .inl ⟨s, hs, x, z, cell, hcell, rfl⟩
  · obtain ⟨s, -, rfl⟩ := List.mem_map.mp hbiome
    exact .inr ⟨_, _, _, rfl⟩

/-- The computed placements of a fragment are given by the formulas. -/
theorem Clip.placements_eq_course {c : Clip} {plan : Plan} (slots : List Slot) {base height : Int}
    (hbase : ∀ s ∈ slots, s.base plan.anchors = base)
    (hheight : ∀ s ∈ slots, s.columnHeight plan c = height)
    (h : NoFault (c.placements base height.toNat
      (slots.map fun s => (s.clipTarget plan.geometry c, s.isTurned)))) :
    c.placements base height.toNat (slots.map fun s => (s.clipTarget plan.geometry c, s.isTurned))
      = (c.course plan slots).map .ok := by
  unfold placements at h ⊢
  unfold course
  refine h.flatMap_eq ?_
  intro column _ hcol
  obtain ⟨x, z⟩ := column
  -- the voxels of a column come before its biomes
  refine hcol.append_eq (fun hvoxels => ?_) fun hbiomes => ?_
  · refine hvoxels.flatMap_eq ?_
    intro cell _ hcell
    obtain ⟨y, v⟩ := cell
    dsimp only at hcell ⊢
    rw [List.map_map] at hcell ⊢
    refine hcell.map_eq fun s hs p hp => Placement.voxelAt_eq ?_
    rw [hbase s hs, hheight s hs]
    exact hp
  · rw [List.map_map] at hbiomes ⊢
    exact hbiomes.map_eq fun s _ p hp => Placement.biomeAt_eq hp

/-! ## Sets of fragments -/

namespace Fragments

variable {f : Fragments} {plan : Plan}

/-- The columns that the fragments of a set make have heights that are coordinates. -/
def HasHeights (f : Fragments) (plan : Plan) : Prop :=
  ∀ s c, Slot.clip? f s = some c → (s ≠ .plot → f.hasRoad plan.geometry = true) →
    Coord.InRange (s.columnHeight plan c)

theorem plotPlacements_eq_course {c : Clip}
    (h : NoFault (plotPlacements plan.geometry plan.anchors c)) :
    plotPlacements plan.geometry plan.anchors c = (c.course plan [.plot]).map .ok ∧
      Coord.InRange (Slot.columnHeight plan c .plot) := by
  obtain ⟨list, hlist, heq, hno⟩ := h.of_orFault
  obtain ⟨roomX, hX, hlist⟩ := Checked.bind_eq_ok_iff.mp hlist
  obtain ⟨roomZ, hZ, hlist⟩ := Checked.bind_eq_ok_iff.mp hlist
  obtain ⟨height, hheight, hlist⟩ := Checked.bind_eq_ok_iff.mp hlist
  obtain ⟨-, rfl⟩ := Coord.sub_eq_ok_iff.mp hX
  obtain ⟨-, rfl⟩ := Coord.sub_eq_ok_iff.mp hZ
  obtain ⟨hrange, rfl⟩ := Coord.add_eq_ok_iff.mp hheight
  have hlist := Except.ok.inj hlist
  subst hlist
  refine ⟨?_, hrange⟩
  rw [plotPlacements, heq]
  exact Clip.placements_eq_course [.plot] (by simp [Slot.base])
    (by simp [Slot.columnHeight]) hno

theorem roadPlacements_eq_course {c : Clip} (slots : List Slot) (hroad : .plot ∉ slots)
    (h : NoFault (roadPlacements plan.anchors plan.extra
      (slots.map fun s => (s.clipTarget plan.geometry c, s.isTurned)) c)) :
    roadPlacements plan.anchors plan.extra
        (slots.map fun s => (s.clipTarget plan.geometry c, s.isTurned)) c =
      (c.course plan slots).map .ok ∧
      Coord.InRange (plan.anchors.roadY + c.coordHeight + plan.extra) := by
  obtain ⟨list, hlist, heq, hno⟩ := h.of_orFault
  obtain ⟨height, hheight, hlist⟩ := Checked.bind_eq_ok_iff.mp hlist
  obtain ⟨-, hrange, rfl⟩ := Coord.sum_pair_eq_ok_iff.mp hheight
  have hlist := Except.ok.inj hlist
  subst hlist
  refine ⟨?_, hrange⟩
  rw [roadPlacements, heq]
  refine Clip.placements_eq_course slots (fun s hs => ?_) (fun s hs => ?_) hno
  · cases s with
    | plot => exact absurd hs hroad
    | straight | turned | crossing => rfl
  · cases s with
    | plot => exact absurd hs hroad
    | straight | turned | crossing => rfl

theorem extraRoom_eq_ok {extra : Int}
    (h : extraRoom plan.geometry plan.settings = .ok extra) : extra = plan.extra := by
  unfold extraRoom at h
  unfold Plan.extra
  split at h
  · rename_i hwall
    rw [if_pos hwall]
    cases h
    rfl
  · rename_i hwall
    rw [if_neg hwall]
    obtain ⟨n, hn, rfl⟩ := Checked.map_eq_ok_iff.mp h
    obtain ⟨-, rfl⟩ := Coord.sub_eq_ok_iff.mp hn
    rfl

theorem flatMap_filling (c? : Option Clip) (slots : List Slot) :
    ((c?.map fun c => (c, slots)).toList.flatMap fun filling => filling.1.course plan filling.2) =
      (c?.map fun c => c.course plan slots).getD [] := by
  cases c? with
  | none => rfl
  | some c =>
    rw [Option.map_some, Option.map_some, Option.toList_some, List.flatMap_singleton,
      Option.getD_some]

/-- The placements fragment by fragment. -/
theorem course_eq : f.course plan =
    (f.plot.map fun c => c.course plan [.plot]).getD [] ++
      if f.hasRoad plan.geometry then
        (f.sideroad.map fun c => c.course plan [.straight, .turned]).getD [] ++
          (f.intersection.map fun c => c.course plan [.crossing]).getD []
      else [] := by
  rw [course, fillings, List.flatMap_append, flatMap_filling]
  by_cases hroad : f.hasRoad plan.geometry = true
  · rw [if_pos hroad, if_pos hroad, List.flatMap_append, flatMap_filling, flatMap_filling]
  · rw [if_neg hroad, if_neg hroad]
    rfl

/-- The placements of a fragment that may be absent. -/
theorem optional_eq (c? : Option Clip) {computed : Clip → List (Checked Placement)}
    (course : Clip → List Placement) {P : Clip → Prop}
    (h : NoFault ((c?.map computed).getD []))
    (hc : ∀ c, c? = some c → NoFault (computed c) → computed c = (course c).map .ok ∧ P c) :
    (c?.map computed).getD [] = ((c?.map course).getD []).map .ok ∧ ∀ c, c? = some c → P c := by
  cases c? with
  | none =>
    refine ⟨rfl, ?_⟩
    intro c hc
    cases hc
  | some c =>
    obtain ⟨heq, hP⟩ := hc c rfl h
    exact ⟨heq, fun d hd => Option.some.inj hd ▸ hP⟩

/-- The computed placements are given by the formulas, if none is a fault. -/
theorem placements_eq_course (plan : Plan)
    (h : NoFault (f.placements plan.geometry plan.settings plan.anchors)) :
    f.placements plan.geometry plan.settings plan.anchors = (f.course plan).map .ok ∧
      f.HasHeights plan := by
  unfold placements at h
  have hplot := optional_eq f.plot (fun c => c.course plan [.plot])
    (fun r hr => h r (List.mem_append_left _ hr)) fun c _ hc => plotPlacements_eq_course hc
  have hroads : NoFault _ := fun r hr => h r (List.mem_append_right _ hr)
  rw [placements, course_eq, List.map_append, ← hplot.1]
  -- road fragments are computed only where there are roads
  by_cases hroad : f.hasRoad plan.geometry = true
  · rw [if_pos hroad] at hroads ⊢
    rw [if_pos hroad]
    obtain ⟨list, hlist, heq, hno⟩ := NoFault.of_orFault hroads
    obtain ⟨extra, hextra, hlist⟩ := Checked.bind_eq_ok_iff.mp hlist
    rw [extraRoom_eq_ok hextra] at hlist
    have hlist := Except.ok.inj hlist
    subst hlist
    have harms := optional_eq f.sideroad (fun c => c.course plan [.straight, .turned])
      (fun r hr => hno r (List.mem_append_left _ hr))
      fun c _ hc => roadPlacements_eq_course [.straight, .turned] (by decide) hc
    have hcrossing := optional_eq f.intersection (fun c => c.course plan [.crossing])
      (fun r hr => hno r (List.mem_append_right _ hr))
      fun c _ hc => roadPlacements_eq_course [.crossing] (by decide) hc
    refine ⟨?_, fun s c hc _ => ?_⟩
    · rw [heq, List.map_append, ← harms.1, ← hcrossing.1]
    · cases s with
      | plot => exact hplot.2 c hc
      | straight => exact harms.2 c hc
      | turned => exact harms.2 c hc
      | crossing => exact hcrossing.2 c hc
  · rw [if_neg hroad, if_neg hroad]
    refine ⟨rfl, ?_⟩
    intro s c hc hs
    cases s with
    | plot => exact hplot.2 c hc
    | straight | turned | crossing => exact absurd (hs (by decide)) hroad

end Fragments

/-! ## Builds -/

namespace Draft

variable {reg : Registry}

/-- A run that carries out all placements had no fault among them. -/
theorem placeAll_eq_none {list : List (Checked Placement)} {d d' : Draft}
    (h : placeAll reg d list = (d', none)) : NoFault list := by
  induction list generalizing d with
  | nil =>
    intro r hr
    cases hr
  | cons r rest ih =>
    cases r with
    | error fault => cases (Prod.mk.inj h).2
    | ok p =>
      intro r hr
      rcases List.mem_cons.mp hr with rfl | hr
      · exact ⟨p, rfl⟩
      · exact ih h r hr

theorem placeAll_map_ok (ps : List Placement) (d : Draft) :
    placeAll reg d (ps.map .ok) = (ps.foldl (place reg) d, none) := by
  induction ps generalizing d with
  | nil => rfl
  | cons p rest ih => exact ih (d.place reg p)

end Draft

namespace Overlay

variable {reg : Registry} {g : Geometry} {s : SchematicSettings} {f : Fragments} {o : Overlay}
  {notices : Array Notice}

/-- The overlay before the first placement has no content. -/
theorem start_eq_ok {blank : Overlay} (h : start g s f = .ok blank) :
    f.anchors g s = .ok blank.anchors ∧ g.size = .ok blank.size ∧ 0 < blank.size ∧
      blank.columns = ∅ ∧ blank.biomes = ∅ ∧ blank.hasPlot = f.plot.isSome ∧
      blank.hasRoad = (f.plotOverhangs g || f.hasRoad g) := by
  obtain ⟨anchors, hanchors, h⟩ := Checked.bind_eq_ok_iff.mp h
  obtain ⟨size, hsize, h⟩ := Checked.bind_eq_ok_iff.mp h
  obtain ⟨plain, hplain, h⟩ := Checked.bind_eq_ok_iff.mp h
  unfold empty? at hplain
  split at hplain
  · rename_i hpos
    have hplain := Except.ok.inj hplain
    subst hplain
    have h := Except.ok.inj h
    subst h
    exact ⟨hanchors, hsize, hpos, rfl, rfl, rfl, rfl⟩
  · cases hplain

/-- **A build that does not stop carries out the placements given by the formulas** and reports
what they drop. -/
theorem build_eq_ok (h : (build reg g s f).exec = (.ok o, notices)) :
    ∃ blank, start g s f = .ok blank ∧ f.HasHeights ⟨g, s, blank.anchors⟩ ∧
      ∃ d, d = (f.course ⟨g, s, blank.anchors⟩).foldl (Draft.place reg) ⟨blank, []⟩ ∧
        Draft.placeAll reg ⟨blank, []⟩ (f.placements g s blank.anchors) = (d, none) ∧
        o = d.overlay ∧
        notices = (d.dropped.reverse.map fun drop =>
          (⟨.error, Draft.dropNotice drop.1 drop.2⟩ : Notice)).toArray := by
  obtain ⟨blank, log, hblank, h⟩ := Checked.run_bind_eq_ok_iff.mp h
  rw [Logged.run_ofExcept] at hblank
  obtain ⟨hstart, rfl⟩ := Prod.mk.inj hblank
  refine ⟨blank, hstart, ?_⟩
  -- drops are reported before the fault is looked at
  cases hrun : Draft.placeAll reg ⟨blank, []⟩ (f.placements g s blank.anchors) with
  | mk d fault =>
    rw [hrun] at h
    obtain ⟨_, log, hreports, h⟩ := Checked.run_bind_eq_ok_iff.mp h
    rw [Logged.run_forM_report] at hreports
    obtain ⟨-, rfl⟩ := Prod.mk.inj hreports
    cases fault with
    | some fault => cases (Prod.mk.inj h).1
    | none =>
      obtain ⟨hok, rfl⟩ := Prod.mk.inj h
      have hok := Except.ok.inj hok
      subst hok
      obtain ⟨heq, hheights⟩ := Fragments.placements_eq_course ⟨g, s, blank.anchors⟩
        (Draft.placeAll_eq_none hrun)
      rw [heq, Draft.placeAll_map_ok] at hrun
      obtain ⟨rfl, -⟩ := Prod.mk.inj hrun
      exact ⟨hheights, _, rfl, rfl, rfl, by simp⟩

/-- What a build keeps of the overlay that it starts with. -/
theorem start_of_build (h : (build reg g s f).exec = (.ok o, notices)) :
    f.anchors g s = .ok o.anchors ∧ g.size = .ok o.size ∧ o.hasPlot = f.plot.isSome ∧
      o.hasRoad = (f.plotOverhangs g || f.hasRoad g) := by
  obtain ⟨blank, hstart, -, d, hd, -, rfl, -⟩ := build_eq_ok h
  obtain ⟨hanchors, hsize, -, -, -, hplot, hroad⟩ := start_eq_ok hstart
  rw [hd, Draft.anchors_foldl, Draft.size_foldl, Draft.hasPlot_foldl, Draft.hasRoad_foldl]
  exact ⟨hanchors, hsize, hplot, hroad⟩

/-- A column of a build is as high as the first placement that goes there says. -/
theorem columnSize?_of_build (h : (build reg g s f).exec = (.ok o, notices)) (key : Nat) :
    o.columnSize? key =
      (f.course ⟨g, s, o.anchors⟩).findSome? (Placement.heightAt? o.size key) := by
  obtain ⟨blank, hstart, -, d, hd, -, rfl, -⟩ := build_eq_ok h
  have hblank : blank.columnSize? key = none := by
    rw [columnSize?, (start_eq_ok hstart).2.2.2.1, Std.HashMap.getElem?_empty]
    rfl
  rw [hd, Draft.anchors_foldl, Draft.size_foldl, Draft.columnSize?_foldl, hblank, Option.none_or]

/-- A cell of a build shows the last voxel that was placed there, if its column reaches it. -/
theorem held?_of_build (h : (build reg g s f).exec = (.ok o, notices)) (key i : Nat) :
    o.held? key i = f.leaves? reg ⟨g, s, o.anchors⟩ o.size key i := by
  have hsize := columnSize?_of_build h key
  obtain ⟨blank, hstart, -, d, hd, -, rfl, -⟩ := build_eq_ok h
  have hblank : blank.held? key i = none := by
    rw [held?, (start_eq_ok hstart).2.2.2.1, Std.HashMap.getElem?_empty]
    rfl
  rw [Fragments.leaves?, ← hsize]
  cases hcolumn : d.overlay.columnSize? key with
  | none =>
    refine held?_eq_none_of_size fun n hn => ?_
    rw [hcolumn] at hn
    cases hn
  | some n =>
    rw [Option.bind_some]
    split
    · rename_i hi
      rw [hd] at hcolumn ⊢
      rw [Draft.anchors_foldl, Draft.size_foldl, Draft.held?_foldl hcolumn hi, hblank,
        Option.or_none]
    · rename_i hi
      refine held?_eq_none_of_size fun m hm => ?_
      rw [hcolumn, Option.some.injEq] at hm
      omega

/-- A build whose placements can be computed has a result. -/
theorem exec_build_of_noFault {blank : Overlay} (hstart : start g s f = .ok blank)
    (hno : NoFault (f.placements g s blank.anchors)) :
    (build reg g s f).exec.1 =
      .ok (Draft.placeAll reg ⟨blank, []⟩ (f.placements g s blank.anchors)).1.overlay := by
  have heq := (Fragments.placements_eq_course ⟨g, s, blank.anchors⟩ hno).1
  dsimp only at heq
  rw [Logged.exec, build, Checked.run_bind, Logged.run_ofExcept, hstart]
  dsimp only
  rw [heq, Draft.placeAll_map_ok]
  dsimp only
  rw [Checked.run_bind, Logged.run_forM_report]
  rfl

end Overlay

end PlotGrid
