import PlotGrid.Proofs.Grid.Starts

/-!
# Why a build stops

The sums of a build may leave the range of coordinates. On a cell that is not empty this is the
only reason for which a build stops, whatever the fragments are.

- `Fragments.onlyOverflow_placements`: the placements of fragments.
- `Overlay.onlyOverflow_build`: a build.
-/

namespace PlotGrid

/-! ## Placements -/

/-- Targets that can be computed unless a sum overflows. -/
def ColumnTarget.Overflowing (target : ColumnTarget) : Prop :=
  ∀ x z, OnlyOverflow (target x z).1 ∧ OnlyOverflow (target x z).2

namespace Geometry

variable (g : Geometry)

theorem plotTarget_overflowing (roomX roomZ : Int) : (g.plotTarget roomX roomZ).Overflowing :=
  fun _ _ => ⟨.sum _ _, .sum _ _⟩

theorem roadTarget_overflowing : g.roadTarget.Overflowing :=
  fun _ _ => ⟨.sub _ _, .sum _ _⟩

theorem turnedTarget_overflowing : g.turnedTarget.Overflowing :=
  fun _ _ => ⟨.sum _ _, (OnlyFaults.sub _ _).bind fun _ _ => .add _ _⟩

theorem crossingTarget_overflowing : g.crossingTarget.Overflowing :=
  fun _ _ => ⟨.sub _ _, .sub _ _⟩

end Geometry

theorem OnlyOverflow.of_mem_orFault {α : Type} {q : Checked (List (Checked α))}
    (hq : OnlyOverflow q) (hlist : ∀ list, q = .ok list → ∀ r ∈ list, OnlyOverflow r)
    {r : Checked α} (hr : r ∈ orFault q) : OnlyOverflow r := by
  cases q with
  | ok list => exact hlist list rfl r hr
  | error fault =>
    rw [List.mem_singleton.mp hr]
    intro fault' h
    exact hq fault' (congrArg Except.error (Except.error.inj h))

theorem Clip.onlyOverflow_placements {c : Clip} {base : Int} {height : Nat}
    {targets : List (ColumnTarget × Bool)} (htargets : ∀ target ∈ targets, target.1.Overflowing) :
    ∀ r ∈ c.placements base height targets, OnlyOverflow r := by
  intro r hr
  obtain ⟨⟨x, z⟩, -, hr⟩ := List.mem_flatMap.mp hr
  rcases List.mem_append.mp hr with hvoxel | hbiome
  · obtain ⟨⟨y, v⟩, -, hcell⟩ := List.mem_flatMap.mp hvoxel
    obtain ⟨⟨target, isTurned⟩, htarget, rfl⟩ := List.mem_map.mp hcell
    obtain ⟨hx, hz⟩ := htargets _ htarget x z
    exact hx.bind fun _ _ => (OnlyFaults.add _ _).bind fun _ _ => hz.bind fun _ _ => .ok _
  · obtain ⟨⟨target, isTurned⟩, htarget, rfl⟩ := List.mem_map.mp hbiome
    obtain ⟨hx, hz⟩ := htargets _ htarget x z
    exact hx.bind fun _ _ => hz.bind fun _ _ => .ok _

namespace Fragments

theorem onlyOverflow_plotPlacements {g : Geometry} {a : Anchors} {c : Clip} :
    ∀ r ∈ plotPlacements g a c, OnlyOverflow r := by
  intro r hr
  refine OnlyOverflow.of_mem_orFault ?_ (fun list hlist => ?_) hr
  · exact (OnlyFaults.sub _ _).bind fun _ _ => (OnlyFaults.sub _ _).bind fun _ _ =>
      (OnlyFaults.add _ _).bind fun _ _ => .ok _
  · obtain ⟨roomX, -, hlist⟩ := Checked.bind_eq_ok_iff.mp hlist
    obtain ⟨roomZ, -, hlist⟩ := Checked.bind_eq_ok_iff.mp hlist
    obtain ⟨height, -, hlist⟩ := Checked.bind_eq_ok_iff.mp hlist
    rw [← Except.ok.inj hlist]
    refine Clip.onlyOverflow_placements ?_
    intro target htarget
    rw [List.mem_singleton.mp htarget]
    exact g.plotTarget_overflowing _ _

theorem onlyOverflow_roadPlacements {a : Anchors} {extra : Int}
    {targets : List (ColumnTarget × Bool)} {c : Clip}
    (htargets : ∀ target ∈ targets, target.1.Overflowing) :
    ∀ r ∈ roadPlacements a extra targets c, OnlyOverflow r := by
  intro r hr
  refine OnlyOverflow.of_mem_orFault ?_ (fun list hlist => ?_) hr
  · exact (OnlyFaults.sum _ _).bind fun _ _ => .ok _
  · obtain ⟨height, -, hlist⟩ := Checked.bind_eq_ok_iff.mp hlist
    rw [← Except.ok.inj hlist]
    exact Clip.onlyOverflow_placements htargets

theorem onlyOverflow_optional {c? : Option Clip} {list : Clip → List (Checked Placement)}
    (h : ∀ c, ∀ r ∈ list c, OnlyOverflow r) :
    ∀ r ∈ (c?.map list).getD [], OnlyOverflow r := by
  cases c? with
  | none =>
    intro r hr
    cases hr
  | some c => exact h c

/-- The placements of fragments can be computed unless a sum overflows. -/
theorem onlyOverflow_placements {f : Fragments} {g : Geometry} {s : SchematicSettings}
    {a : Anchors} : ∀ r ∈ f.placements g s a, OnlyOverflow r := by
  intro r hr
  rcases List.mem_append.mp hr with hplot | hroads
  · exact onlyOverflow_optional (fun _ => onlyOverflow_plotPlacements) r hplot
  · split at hroads
    · -- the room above road fragments is computed before their placements
      refine OnlyOverflow.of_mem_orFault ?_ (fun list hlist => ?_) hroads
      · refine OnlyFaults.bind ?_ fun _ _ => .ok _
        unfold extraRoom
        split
        · exact .ok 0
        · exact (OnlyFaults.sub _ _).map _
      · obtain ⟨extra, -, hlist⟩ := Checked.bind_eq_ok_iff.mp hlist
        rw [← Except.ok.inj hlist]
        intro r hr
        rcases List.mem_append.mp hr with harms | hcrossing
        · refine onlyOverflow_optional (fun _ => onlyOverflow_roadPlacements ?_) r harms
          simp only [List.mem_cons, List.not_mem_nil, or_false, forall_eq_or_imp, forall_eq]
          exact ⟨g.roadTarget_overflowing, g.turnedTarget_overflowing⟩
        · refine onlyOverflow_optional (fun _ => onlyOverflow_roadPlacements ?_) r hcrossing
          simp only [List.mem_cons, List.not_mem_nil, or_false, forall_eq]
          exact g.crossingTarget_overflowing
    · cases hroads

end Fragments

/-! ## Builds -/

/-- A run that stops at a fault met it among its placements. -/
theorem Draft.mem_of_placeAll {reg : Registry} {list : List (Checked Placement)} {d d' : Draft}
    {fault : Fault} (h : placeAll reg d list = (d', some fault)) : .error fault ∈ list := by
  induction list generalizing d with
  | nil => cases (Prod.mk.inj h).2
  | cons r rest ih =>
    cases r with
    | ok p => exact List.mem_cons_of_mem _ (ih h)
    | error fault' =>
      rw [Option.some.inj (Prod.mk.inj h).2]
      exact List.mem_cons_self

namespace Overlay

variable {reg : Registry} {g : Geometry} {s : SchematicSettings} {f : Fragments}

theorem onlyOverflow_start (h : 0 < g.plotWidth + g.roadWidth) : OnlyOverflow (start g s f) := by
  refine Anchors.onlyOverflow_compute.bind ?_
  intro anchors _
  refine (OnlyFaults.add _ _).bind ?_
  intro size hsize
  rw [(Coord.add_eq_ok_iff.mp hsize).2, empty?, if_pos h]
  exact .ok _

/-- **A build stops at an overflow or not at all.** -/
theorem onlyOverflow_build (h : 0 < g.plotWidth + g.roadWidth) :
    OnlyOverflow (build reg g s f).exec.1 := by
  intro fault hfault
  rw [Logged.exec, build, Checked.run_bind, Logged.run_ofExcept] at hfault
  -- a build stops at its start or at a placement, and reports cannot stop it
  cases hstart : start g s f with
  | error fault' =>
    rw [hstart] at hfault
    exact onlyOverflow_start h fault (hstart.trans hfault)
  | ok blank =>
    rw [hstart] at hfault
    dsimp only at hfault
    cases hrun : Draft.placeAll reg ⟨blank, []⟩ (f.placements g s blank.anchors) with
    | mk d stop =>
      rw [hrun] at hfault
      dsimp only at hfault
      rw [Checked.run_bind, Logged.run_forM_report] at hfault
      cases stop with
      | none => cases hfault
      | some fault' =>
        have heq : fault' = fault := Except.error.inj hfault
        subst heq
        exact Fragments.onlyOverflow_placements _ (Draft.mem_of_placeAll hrun) fault' rfl

/-- A build that does not overflow has a result, on any cell that is not empty. -/
theorem exists_build_eq_of_pos (h : 0 < g.plotWidth + g.roadWidth)
    (hrun : (build reg g s f).exec.1 ≠ .error .overflow) :
    ∃ o notices, (build reg g s f).exec = (.ok o, notices) := by
  cases hexec : (build reg g s f).exec with
  | mk result notices =>
    cases result with
    | ok o => exact ⟨o, notices, rfl⟩
    | error fault =>
      have hfault : fault = .overflow := onlyOverflow_build h fault (congrArg Prod.fst hexec)
      rw [hexec, hfault] at hrun
      exact absurd rfl hrun

theorem exists_build_eq (h : g.Paved) (hrun : (build reg g s f).exec.1 ≠ .error .overflow) :
    ∃ o notices, (build reg g s f).exec = (.ok o, notices) :=
  exists_build_eq_of_pos h.size_pos hrun

end Overlay

end PlotGrid
