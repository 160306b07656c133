import PlotGrid.Proofs.Area.Ownership
import PlotGrid.Proofs.Area.Split
import PlotGrid.Proofs.Service.Conservation

/-!
# Overlays that are published during a job

Each pass looks up the owner of its chunk anew and takes the overlay that the owner shows then. So
the two passes of a job agree if nothing is published in the owner between them, and otherwise the
result can hold voxels of two overlays.

- `Event.publishedIn`, `Service.getElem?_after`: an area after the calls that were made on it.
- `Atlas.owner?`, `Service.forChunk?_after`: the owner stays; its overlay is the one of the moment.
- `passes_see_overlays_of_their_moments`: what the two passes of a job look at.
- `passes_can_mix_overlays`: a job with voxels of two overlays.
-/

namespace PlotGrid

/-! ## Areas after publications -/

namespace Area

theorem variantOf_of_clear {a a' : Area} (h : a.clear = .ok a') : a'.VariantOf a := by
  obtain ⟨o, -, ho⟩ := Checked.bind_eq_ok_iff.mp h
  rw [← Except.ok.inj ho]
  rfl

theorem variantOf_next (a : Area) (call : Call) : (a.next call).VariantOf a := by
  rw [next]
  cases hrun : call.run a with
  | error fault => rfl
  | ok a' =>
    show a'.VariantOf a
    cases call with
    | setup tree source =>
      obtain ⟨⟨_, result⟩, hsetup, rfl⟩ := Checked.map_eq_ok_iff.mp hrun
      rcases setup_eq_ok hsetup with ⟨e, -, hclear⟩ | ⟨f, o, -, rfl, -⟩
      · exact variantOf_of_clear hclear
      · rfl
    | install f =>
      obtain ⟨⟨_, summary⟩, hinstall, rfl⟩ := Checked.map_eq_ok_iff.mp hrun
      obtain ⟨o, -, rfl, -⟩ := install_run_eq_ok (Prod.ext hinstall rfl)
      rfl
    | clear => exact variantOf_of_clear hrun

/-- No list of calls changes anything but the overlay. -/
theorem variantOf_after (a : Area) (calls : List Call) : (a.after calls).VariantOf a := by
  induction calls using List.reverseRecOn with
  | nil => rfl
  | append_singleton calls call ih =>
    rw [after_concat]
    have hnext := (a.after calls).variantOf_next call
    unfold VariantOf at ih hnext ⊢
    rw [hnext, ih]

end Area

namespace Event

/-- The call of a publication in an area. -/
def publishedIn? (area : Nat) : Event → Option Area.Call
  | .publish i call => if i = area then some call else none
  | _ => none

/-- The calls that were made on an area, the first first. -/
def publishedIn (area : Nat) (events : List Event) : List Area.Call :=
  events.filterMap (publishedIn? area)

end Event

namespace Service

/-- An area after an event. -/
theorem getElem?_next (s : Service) (e : Event) (area : Nat) :
    (s.next e).atlas[area]? = s.atlas[area]?.map fun a => a.after (e.publishedIn? area).toList := by
  cases e with
  | publish i call =>
    show (s.atlas.modify i fun a => a.next call)[area]? = _
    rw [Array.getElem?_modify, Event.publishedIn?]
    split
    · rfl
    · exact Option.map_id'.symm
  | _ => exact Option.map_id'.symm

/-- **An area is as the calls on it have left it.** -/
theorem getElem?_after (s : Service) (events : List Event) (area : Nat) :
    (s.after events).atlas[area]? =
      s.atlas[area]?.map fun a => a.after (Event.publishedIn area events) := by
  induction events using List.reverseRecOn with
  | nil => exact Option.map_id'.symm
  | append_singleton events e ih =>
    rw [after_append]
    show ((s.after events).next e).atlas[area]? = _
    rw [getElem?_next, ih, Option.map_map, Event.publishedIn, Event.publishedIn,
      List.filterMap_append, List.filterMap_cons, List.filterMap_nil]
    congr 1
    funext a
    cases e.publishedIn? area with
    | none => simp [Area.after]
    | some call => simp [Area.after]

end Service

/-! ## Owners after publications -/

/-- The index of the area that owns a chunk. -/
def Atlas.owner? (atlas : Atlas) (world : String) (cx cz : Int) : Option Nat :=
  atlas.toList.findIdx? fun a => a.world == world && a.region.all (·.intersectsChunk cx cz)

theorem Atlas.forChunk?_eq_bind (atlas : Atlas) (world : String) (cx cz : Int) :
    atlas.forChunk? world cx cz = (atlas.owner? world cx cz).bind fun i => atlas[i]? := by
  rw [forChunk?_eq, owner?, List.find?_eq_bind_findIdx?_getElem?]
  simp only [Array.getElem?_toList]

namespace Service

variable {s : Service} {world : World} {cx cz : Int}

/-- No publication changes which area owns a chunk. -/
theorem owner?_after (s : Service) (events : List Event) (world : String) (cx cz : Int) :
    (s.after events).atlas.owner? world cx cz = s.atlas.owner? world cx cz := by
  have hlooked : (s.after events).atlas.toList.map (fun a => (a.world, a.region)) =
      s.atlas.toList.map fun a => (a.world, a.region) := by
    refine List.ext_getElem? fun i => ?_
    rw [List.getElem?_map, List.getElem?_map, Array.getElem?_toList, Array.getElem?_toList,
      getElem?_after, Option.map_map]
    congr 1
    funext a
    have hvariant := a.variantOf_after (Event.publishedIn i events)
    exact Prod.ext hvariant.world_eq hvariant.region_eq
  -- the look-up reads the world and the region of an area alone
  have howner := congrArg
    (List.findIdx? fun key : String × Option Region =>
      key.1 == world && key.2.all (·.intersectsChunk cx cz)) hlooked
  rw [List.findIdx?_map, List.findIdx?_map] at howner
  exact howner

/-- **The owner of a chunk stays and shows the overlay of the moment.** -/
theorem forChunk?_after (s : Service) (events : List Event) (world : String) (cx cz : Int) :
    (s.after events).atlas.forChunk? world cx cz =
      (s.atlas.owner? world cx cz).bind fun i =>
        s.atlas[i]?.map fun a => a.after (Event.publishedIn i events) := by
  rw [Atlas.forChunk?_eq_bind, owner?_after]
  simp only [getElem?_after]

theorem generator_after (s : Service) (events : List Event) :
    (s.after events).generator = s.generator := by
  induction events using List.reverseRecOn with
  | nil => rfl
  | append_singleton events e ih =>
    rw [after_append, ← ih]
    cases e <;> rfl

/-- A request for the second pass looks at nothing but the owner. -/
theorem populate_after {events : List Event}
    (howner : (s.after events).atlas.forChunk? world.name cx cz =
      s.atlas.forChunk? world.name cx cz) :
    (s.after events).populate world cx cz = s.populate world cx cz := by
  rw [populate, populate, howner]
  cases s.atlas.forChunk? world.name cx cz with
  | none => rfl
  | some a =>
    dsimp only
    rw [populateIn, populateIn, generator_after]

end Service

/-! ## The two passes of a job -/

namespace Course

variable {events : List Event} {r : JobResult} {k : Course events r} {s : Service} {world : World}

/-- If the owner is the same at both passes, both are of one moment. -/
theorem Made.answers_of_owner_eq (h : k.Made s world)
    (howner : (s.after k.second).atlas.forChunk? world.name r.job.cx r.job.cz =
      (s.after k.first).atlas.forChunk? world.name r.job.cx r.job.cz) :
    (s.after k.first).Answers world r := by
  have hsecond := Service.secondPass_eq_ok_iff.mp h.second
  rw [Course.second, Service.after_append] at hsecond howner
  rw [Service.populate_after howner] at hsecond
  exact ⟨h.first, hsecond⟩

/-- A chunk without an owner is told to be so. -/
theorem Made.unmanaged (h : k.Made s world)
    (howner : s.atlas.owner? world.name r.job.cx r.job.cz = none) :
    r.outcome = .unmanaged ∧ r.populated = none := by
  have hnone (events' : List Event) :
      (s.after events').atlas.forChunk? world.name r.job.cx r.job.cz = none := by
    rw [Service.forChunk?_after, howner]
    rfl
  have hfirst := h.first
  rw [Service.generate, hnone] at hfirst
  have houtcome : r.outcome = .unmanaged := (Except.ok.inj hfirst).symm
  have hsecond := Service.secondPass_eq_ok_iff.mp h.second
  rw [houtcome, if_neg (by simp [ChunkOutcome.isUnmanaged])] at hsecond
  exact ⟨houtcome, hsecond⟩

theorem publishedIn_second (k : Course events r) (area : Nat) :
    Event.publishedIn area k.second =
      Event.publishedIn area k.first ++ Event.publishedIn area k.late := by
  rw [Event.publishedIn, Course.second, List.filterMap_append, List.filterMap_cons]
  rfl

end Course

/-! ## A small job -/

/-- The buffer of the first chunk of a low world. -/
def Buffer.low (track : Bool) : Buffer :=
  ⟨⟨0, 0, 0⟩, ⟨15, 7, 15⟩, .empty 16 16 8, if track then some (.empty 16 16 8) else none⟩

theorem Buffer.low_chunk (track : Bool) : forChunk? 0 0 0 7 track = .ok (low track) :=
  rfl

theorem Buffer.low_fresh (track : Bool) : (low track).Fresh :=
  fresh_of_new? (show BlockPos.InRange ⟨0, 0, 0⟩ by decide)
    (show BlockPos.InRange ⟨15, 7, 15⟩ by decide) (low_chunk track)

theorem Geometry.low_columns : ∃ columns, columnsOf .small ⟨0, 0, 0⟩ 16 16 = .ok columns ∧
    ⟨1, 1, 1, 1, .plot⟩ ∈ columns :=
  ⟨_, rfl, by decide⟩

/-- The middle of a plot in the passes of a small cell: stone without fragments, and with them a
post and the sign on top of it. -/
theorem Area.small_middle {o : Overlay} {reports : Array Notice}
    (hbuild : (Overlay.build .small .small .default .small).exec = (.ok o, reports))
    (track : Bool) :
    (small.generate.exec (.low track)).2.voxel? 1 3 1 = some ⟨⟨7, 0⟩, none⟩ ∧
      ({ small with overlay := o }.generate.exec (.low track)).2.voxel? 1 3 1 =
        some ⟨⟨1, 0⟩, none⟩ ∧
      ∃ second, { small with overlay := o }.populate.exec (.low track) = (.ok true, second) ∧
        second.voxel? 1 4 1 = some ⟨⟨2, 0⟩, some 4⟩ := by
  have hcell : { small with overlay := o }.HasCell := show (0 : Int) < 2 + 1 by decide
  have ho := Overlay.narrow_of_build hbuild
  have hb := Buffer.low_fresh track
  have hsound := small_accepted.sound
  obtain ⟨columns, hcolumns, hc⟩ := Geometry.low_columns
  obtain ⟨hpost, hsign⟩ := small_overlayAt? hbuild
  obtain ⟨hfirst, hsecond⟩ := small_runs_of hbuild hb ⟨columns, hcolumns⟩
  rw [not_overflows_generate_iff hcell ho hb] at hfirst
  rw [not_overflows_populate_iff hcell ho hb] at hsecond
  have hplain : small.CanGenerate (Buffer.low track).frame :=
    canGenerate_of_variant (a := { small with overlay := o }) hsound rfl
      (show Coord.InRange 5 by decide) hfirst
  obtain ⟨plain, hplainExec, hplainAt, -⟩ :=
    exists_generate_eq hsound.hasCell hsound.narrow hb hplain hcolumns
  obtain ⟨first, hfirstExec, hfirstAt, -⟩ := exists_generate_eq hcell ho hb hfirst hcolumns
  obtain ⟨second, hsecondExec, hsecondIff⟩ := exists_populate_eq hcell ho hb hsecond hcolumns
  have hpart := part?_eq_some_iff.mpr ⟨hsign, rfl⟩
  have hheight (y : Int) (hy : 0 ≤ y ∧ y ≤ 7) : (Buffer.low track).HasHeight y := hy
  refine ⟨?_, ?_, second, ?_, ?_⟩
  · rw [hplainExec]
    exact hplainAt _ hc 3 (hheight 3 (by decide))
  · rw [hfirstExec]
    exact (hfirstAt _ hc 3 (hheight 3 (by decide))).trans (firstAt?_of_untagged hpost rfl)
  · have hany : { small with overlay := o }.populatesAny (Buffer.low track).frame = true :=
      (populatesAny_iff (a := { small with overlay := o }) (b := .low track) hcolumns).mpr
        ⟨_, hc, 4, _, hheight 4 (by decide), hpart⟩
    rw [hsecondExec, hany]
  · exact (hsecondIff 1 4 1 _).mpr ⟨_, hc, rfl, rfl, hheight 4 (by decide), hpart⟩

/-- The fragments of the small cell are installed. -/
def Event.smallInstallation : Event :=
  .publish 0 (.install .small)

theorem Service.small_after {o : Overlay} {reports : Array Notice}
    (hbuild : (Overlay.build .small .small .default .small).exec = (.ok o, reports)) :
    small.after [.smallInstallation] = { atlas := #[{ Area.small with overlay := o }] } := by
  obtain ⟨notices, hinstall⟩ := Area.exists_install_eq (a := .small) hbuild
  have hnext : Area.next .small (.install .small) = { Area.small with overlay := o } := by
    rw [Area.next, Area.Call.run, hinstall]
    rfl
  show ({ atlas := #[Area.next .small (.install .small)] } : Service) = _
  rw [hnext]

/-- A result with the first pass of the small cell before its fragments are installed. -/
def JobResult.mixed (second : Buffer) : JobResult :=
  ⟨⟨0, 0, 0, true⟩, .generated (Area.small.generate.exec (.low true)).2, some second⟩

/-- Before the installation there is no second pass. -/
theorem Service.small_not_answers (second : Buffer) :
    ¬ small.Answers .low (.mixed second) := by
  intro h
  have hnone : (small.populate .low 0 0).Yields (.ok none) :=
    yields_populate (a := .small) rfl (Buffer.low_chunk false)
  cases hnone.exec_eq.symm.trans h.second

/-- After the installation the first pass shows the post. -/
theorem Service.small_after_not_answers (second : Buffer) :
    ¬ (small.after [.smallInstallation]).Answers .low (.mixed second) := by
  obtain ⟨o, reports, hbuild⟩ := Area.small_build
  obtain ⟨hstone, hpost, -⟩ := Area.small_middle hbuild true
  rw [small_after hbuild]
  intro h
  let s : Service := { atlas := #[{ Area.small with overlay := o }] }
  have hgenerate : (s.generate .low 0 0).Yields _ :=
    yields_generate rfl rfl (Buffer.low_chunk true)
  have hbuffer := ChunkOutcome.generated.inj (Except.ok.inj (hgenerate.exec_eq.symm.trans h.first))
  have hsame := congrArg (fun b => b.voxel? 1 3 1) hbuffer
  cases hstone.symm.trans (hsame.symm.trans hpost)

/-- A job with the installation between its passes. -/
def Event.mixed (second : Buffer) : List Event :=
  let r := JobResult.mixed second
  [.submit r.job, .take 0 r.job, .generate 0 r.outcome, .smallInstallation, .finish 0 r]

open Crew in
/-- The job can be worked off in this way, and then has the sign of the fragments. -/
theorem Crew.small_run : ∃ second c, Run .low (start .small 1) (Event.mixed second) c ∧
    JobResult.mixed second ∈ c.delivered (Event.mixed second) ∧
    second.voxel? 1 4 1 = some ⟨⟨2, 0⟩, some 4⟩ := by
  obtain ⟨o, reports, hbuild⟩ := Area.small_build
  obtain ⟨-, -, second, hsecond, hsign⟩ := Area.small_middle hbuild false
  have hgenerate : (Service.small.generate .low 0 0).exec.1 =
      .ok (JobResult.mixed second).outcome :=
    (Service.yields_generate rfl rfl (Buffer.low_chunk true)).exec_eq
  have hpopulate : ((Service.small.after [.smallInstallation]).populate .low 0 0).exec.1 =
      .ok (some second) := by
    rw [Service.small_after hbuild]
    refine (Service.yields_populate rfl (Buffer.low_chunk false)).exec_eq.trans ?_
    show Except.ok (Service.written? (Area.populate _ |>.exec _)) = _
    rw [hsecond]
    rfl
  have hrun := (Run.single (.submit (start .small 1) (JobResult.mixed second).job)).append
    (Run.solo [.smallInstallation] (i := 0) rfl rfl
      (by simp [Event.smallInstallation, Event.Publishes]) hgenerate
      (Service.secondPass_eq_ok_iff.mpr hpopulate))
  exact ⟨second, _, hrun, List.mem_cons_self, hsign⟩

/-! ## The overlays of a job -/

open Crew in
/-- **Each pass of a job sees the overlay that the owner of its chunk shows at that moment.** The
owner is the same for both. If it shows the same overlay at both moments, and in particular if
nothing is published in it between them, the result is the answer of one moment. -/
theorem passes_see_overlays_of_their_moments {s : Service} {workers : Nat} {world : World}
    {events : List Event} {c : Crew} (hrun : Run world (start s workers) events c) {r : JobResult}
    (hr : r ∈ c.delivered events) : ∃ k : Course events r, k.Made s world ∧
      (s.atlas.owner? world.name r.job.cx r.job.cz = none →
        r.outcome = .unmanaged ∧ r.populated = none) ∧
      ∀ i a, s.atlas.owner? world.name r.job.cx r.job.cz = some i → s.atlas[i]? = some a →
        let before := Event.publishedIn i k.first
        let between := Event.publishedIn i k.late
        (s.after k.first).atlas.forChunk? world.name r.job.cx r.job.cz = some (a.after before) ∧
          (s.after k.second).atlas.forChunk? world.name r.job.cx r.job.cz =
            some (a.after (before ++ between)) ∧
          (a.after (before ++ between) = a.after before → (s.after k.first).Answers world r) := by
  obtain ⟨k, hk⟩ := hrun.explained.delivered r hr
  refine ⟨k, hk, hk.unmanaged, ?_⟩
  intro i a howner ha before between
  have hfirst : (s.after k.first).atlas.forChunk? world.name r.job.cx r.job.cz =
      some (a.after before) := by
    rw [Service.forChunk?_after, howner, Option.bind_some, ha]
    rfl
  have hsecond : (s.after k.second).atlas.forChunk? world.name r.job.cx r.job.cz =
      some (a.after (before ++ between)) := by
    rw [Service.forChunk?_after, howner, Option.bind_some, ha, k.publishedIn_second]
    rfl
  refine ⟨hfirst, hsecond, ?_⟩
  intro hsame
  -- then the look-up of the second pass finds the very area of the first
  rw [← hsame, ← hsecond] at hfirst
  exact hk.answers_of_owner_eq hfirst.symm

open Crew in
/-- The small job has the same owner for both passes. -/
theorem passes_see_overlays_of_small : ∃ second c,
    Run .low (start .small 1) (Event.mixed second) c ∧
      ∃ k : Course (Event.mixed second) (.mixed second), k.Made .small .low ∧
        (Service.small.after k.first).atlas.forChunk? "world" 0 0 =
          some (Area.small.after (Event.publishedIn 0 k.first)) ∧
        (Service.small.after k.second).atlas.forChunk? "world" 0 0 =
          some (Area.small.after (Event.publishedIn 0 k.first ++ Event.publishedIn 0 k.late)) := by
  obtain ⟨second, c, hrun, hr, -⟩ := small_run
  obtain ⟨k, hk, -, howner⟩ := passes_see_overlays_of_their_moments hrun hr
  obtain ⟨hfirst, hsecond, -⟩ := howner 0 .small rfl rfl
  exact ⟨second, c, hrun, k, hk, hfirst, hsecond⟩

open Crew in
/-- **The passes of a job can see two overlays.** When fragments are installed between them, the
result has the stone of the first overlay and the sign of the second, and at no moment of the run
is it the answer to direct requests. -/
theorem passes_can_mix_overlays : Atlas.Made Service.small.atlas ∧
    ∃ (r : JobResult) (first second : Buffer) (events : List Event) (c : Crew),
      Run .low (start .small 1) events c ∧ r ∈ c.delivered events ∧
      r.job = ⟨0, 0, 0, true⟩ ∧ r.outcome = .generated first ∧ r.populated = some second ∧
      first.voxel? 1 3 1 = some ⟨⟨7, 0⟩, none⟩ ∧ second.voxel? 1 4 1 = some ⟨⟨2, 0⟩, some 4⟩ ∧
      ∀ n, ¬ (Service.small.after (events.take n)).Answers .low r := by
  obtain ⟨o, reports, hbuild⟩ := Area.small_build
  obtain ⟨hstone, -, -⟩ := Area.small_middle hbuild true
  obtain ⟨second, c, hrun, hr, hsign⟩ := small_run
  refine ⟨?_, .mixed second, _, second, _, c, hrun, hr, rfl, rfl, rfl, hstone, hsign, ?_⟩
  · intro a ha
    rw [Array.mem_singleton.mp ha]
    exact ⟨_, Area.small_accepted, rfl⟩
  · intro n
    match n with
    | 0 | 1 | 2 | 3 => exact Service.small_not_answers second
    | n + 4 =>
      -- the installation is the fourth event, and nothing is published after it
      have hquiet : ∀ e ∈ [Event.finish 0 (.mixed second)].take n, ¬ e.Publishes := by
        intro e he
        rw [List.mem_singleton.mp (List.mem_of_mem_take he)]
        exact id
      show ¬ ((Service.small.after [.smallInstallation]).after
        ([Event.finish 0 (.mixed second)].take n)).Answers _ _
      rw [Service.after_of_quiet _ hquiet]
      exact Service.small_after_not_answers second

end PlotGrid
