import Mathlib.Data.List.Induction
import PlotGrid.Proofs.Area.Install
import PlotGrid.Proofs.Fragment.Loading

/-!
# Histories of published overlays

Whatever is published in an area, and whichever of the calls stop or fail, the overlay that the
area shows is the one of the last call that was completed: the overlay of its fragments as a whole,
or the one without fragments.

- `Area.Call`, `Area.after`: a call that publishes an overlay, and the area after a list of calls.
- `Area.yields_setup`, `Area.yields_setup_error`, `Area.setup_eq_ok`: what a setup ends with.
- `Area.VariantOf.run_eq`: no call depends on the overlay before it.
- `Area.Sound.shows_after`, `Area.Sound.after_eq_last`: what a list of calls leaves.
- `Area.AllOrNothing`: overlays are published as a whole or not at all.
- `overlays_are_all_or_nothing`: all of it for an area that was made from a configuration.
-/

namespace PlotGrid

namespace Area

variable {a a₀ : Area}

theorem Sound.onlyOverflow_built (h : a.Sound) (f : Fragments) : OnlyOverflow (a.built f) := by
  have hplot := h.geometry.plot
  have hroad := h.geometry.road
  exact Overlay.onlyOverflow_build (by omega)

/-! ## Setups -/

/-- The area has its own overlay back once it is cleared. -/
theorem Sound.clear_eq_ok (h : a.Sound) : a.clear = .ok a := by
  rw [clear, h.overlay]
  rfl

variable {tree : FileTree} {source : FragmentSource} {f : Fragments} {e : FragmentFailure}

/-- A setup whose fragments were loaded installs them. -/
theorem yields_setup
    (hload : (Fragments.load tree source
      (tree.fragmentRoot a.schematics.root a.world a.id)).run.Yields (.ok (.ok f))) :
    (a.setup tree source).Yields
      ((a.built f).map fun o => ({ a with overlay := o }, .ok o.summary)) := by
  have hinstall := a.yields_install f
  refine .bind hload ?_
  cases hbuilt : a.built f with
  | error fault =>
    rw [hbuilt] at hinstall
    exact .bind_error hinstall _
  | ok o =>
    rw [hbuilt] at hinstall
    exact .bind hinstall (.ok _)

/-- A setup that could not load its fragments clears the area. -/
theorem yields_setup_error
    (hload : (Fragments.load tree source
      (tree.fragmentRoot a.schematics.root a.world a.id)).run.Yields (.ok (.error e))) :
    (a.setup tree source).Yields (a.clear.map fun a' => (a', .error e)) := by
  refine .bind hload (.bind (.report _ _) ?_)
  cases a.clear with
  | error fault => exact .bind_error (.ofExcept (.error fault)) _
  | ok a' => exact .bind (.ofExcept (.ok a')) (.ok _)

/-- A setup that does not stop shows one set of fragments or has cleared the area, whatever the
source does. -/
theorem setup_eq_ok {a' : Area} {result : Except FragmentFailure OverlaySummary}
    (h : (a.setup tree source).exec.1 = .ok (a', result)) :
    (∃ e, result = .error e ∧ a.clear = .ok a') ∨
      ∃ f o, a.built f = .ok o ∧ a' = { a with overlay := o } ∧ result = .ok o.summary := by
  have hexec : (a.setup tree source).run #[] =
      (.ok (a', result), (a.setup tree source).exec.2) := Prod.ext h rfl
  obtain ⟨loaded, _, -, hrest⟩ := Checked.run_bind_eq_ok_iff.mp hexec
  cases loaded with
  | ok f =>
    obtain ⟨⟨installed, summary⟩, _, hinstall, hrest⟩ := Checked.run_bind_eq_ok_iff.mp hrest
    obtain ⟨harea, hresult⟩ := Prod.mk.inj (Except.ok.inj (Prod.mk.inj hrest).1)
    obtain ⟨o, ho, hinstalled, hsummary⟩ := install_run_eq_ok hinstall
    exact .inr ⟨f, o, ho, harea ▸ hinstalled, hsummary ▸ hresult.symm⟩
  | error e =>
    obtain ⟨_, _, -, hrest⟩ := Checked.run_bind_eq_ok_iff.mp hrest
    obtain ⟨cleared, _, hclear, hrest⟩ := Checked.run_bind_eq_ok_iff.mp hrest
    obtain ⟨harea, hresult⟩ := Prod.mk.inj (Except.ok.inj (Prod.mk.inj hrest).1)
    rw [Logged.run_ofExcept] at hclear
    exact .inl ⟨e, hresult.symm, harea ▸ (Prod.mk.inj hclear).1⟩

/-! ## Histories -/

/-- A call that publishes an overlay. -/
inductive Call
  | setup (tree : FileTree) (source : FragmentSource)
  | install (f : Fragments)
  | clear

/-- The area that a call leaves, or the fault that stops it. -/
def Call.run (a : Area) : Call → Checked Area
  | .setup tree source => (a.setup tree source).exec.1.map Prod.fst
  | .install f => (a.install f).exec.1.map Prod.fst
  | .clear => a.clear

/-- The area after a call. One that stops at a fault has published nothing. -/
def next (a : Area) (c : Call) : Area :=
  (c.run a).toOption.getD a

/-- The area after a list of calls. -/
def after (a : Area) (calls : List Call) : Area :=
  calls.foldl next a

theorem after_concat (a : Area) (calls : List Call) (c : Call) :
    a.after (calls ++ [c]) = (a.after calls).next c := by
  rw [after, List.foldl_append]
  rfl

theorem after_concat_of_ok {calls : List Call} {c : Call} (h : c.run (a₀.after calls) = .ok a) :
    a₀.after (calls ++ [c]) = a := by
  rw [after_concat, next, h]
  rfl

theorem after_concat_of_error {calls : List Call} {c : Call} {fault : Fault}
    (h : c.run (a₀.after calls) = .error fault) : a₀.after (calls ++ [c]) = a₀.after calls := by
  rw [after_concat, next, h]
  rfl

/-- A call does not depend on the overlay before it. -/
theorem VariantOf.install_eq (h : a.VariantOf a₀) (f : Fragments) : a.install f = a₀.install f := by
  rw [h]
  rfl

theorem VariantOf.setup_eq (h : a.VariantOf a₀) (tree : FileTree) (source : FragmentSource) :
    a.setup tree source = a₀.setup tree source := by
  rw [h]
  rfl

theorem VariantOf.clear_eq (h : a.VariantOf a₀) : a.clear = a₀.clear := by
  rw [h]
  rfl

theorem VariantOf.run_eq (h : a.VariantOf a₀) (c : Call) : c.run a = c.run a₀ := by
  cases c with
  | setup tree source => rw [Call.run, Call.run, h.setup_eq]
  | install f => rw [Call.run, Call.run, h.install_eq]
  | clear => exact h.clear_eq

/-- The area as it was made, or with the overlay that was built of one set of fragments. -/
def Shows (a₀ a : Area) : Prop :=
  a = a₀ ∨ ∃ f o, a₀.built f = .ok o ∧ a = { a₀ with overlay := o }

theorem Shows.variantOf (h : a₀.Shows a) : a.VariantOf a₀ := by
  rcases h with rfl | ⟨f, o, -, rfl⟩
  · rfl
  · rfl

/-- A call that is completed leaves one set of fragments or none. -/
theorem Sound.shows_of_run (h : a₀.Sound) {c : Call} (hrun : c.run a₀ = .ok a) : a₀.Shows a := by
  cases c with
  | setup tree source =>
    obtain ⟨⟨a', result⟩, hsetup, rfl⟩ := Checked.map_eq_ok_iff.mp hrun
    rcases setup_eq_ok hsetup with ⟨e, -, hclear⟩ | ⟨f, o, ho, harea, -⟩
    · exact .inl (Except.ok.inj (hclear.symm.trans h.clear_eq_ok))
    · exact .inr ⟨f, o, ho, harea⟩
  | install f =>
    obtain ⟨⟨a', summary⟩, hinstall, rfl⟩ := Checked.map_eq_ok_iff.mp hrun
    obtain ⟨o, ho, harea, -⟩ := install_run_eq_ok (Prod.ext hinstall rfl)
    exact .inr ⟨f, o, ho, harea⟩
  | clear => exact .inl (Except.ok.inj (hrun.symm.trans h.clear_eq_ok))

theorem Sound.shows_next (h : a₀.Sound) (ha : a₀.Shows a) (c : Call) : a₀.Shows (a.next c) := by
  rw [next, ha.variantOf.run_eq]
  cases hrun : c.run a₀ with
  | error fault => exact ha
  | ok a' => exact h.shows_of_run hrun

/-- **A history leaves one set of fragments or none.** -/
theorem Sound.shows_after (h : a₀.Sound) (calls : List Call) : a₀.Shows (a₀.after calls) := by
  induction calls using List.reverseRecOn with
  | nil => exact .inl rfl
  | append_singleton calls c ih =>
    rw [after_concat]
    exact h.shows_next ih c

/-- **A history leaves what the last completed call leaves**, and the area as it was made if there
is none. -/
theorem Sound.after_eq_last (h : a₀.Sound) (calls : List Call) :
    a₀.after calls = (calls.reverse.findSome? fun c => (c.run a₀).toOption).getD a₀ := by
  induction calls using List.reverseRecOn with
  | nil => rfl
  | append_singleton calls c ih =>
    rw [after_concat, next, (h.shows_after calls).variantOf.run_eq, List.reverse_append,
      List.reverse_singleton, List.singleton_append, List.findSome?_cons]
    cases c.run a₀ with
    | error fault => exact ih
    | ok a => rfl

/-! ## Areas of configurations -/

/-- Where the fragment of a kind is looked for. -/
def fragmentFile (a : Area) (tree : FileTree) (kind : FragmentKind) : String :=
  tree.fragmentPath (tree.fragmentRoot a.schematics.root a.world a.id) kind

/-- Overlays are published in an area as a whole or not at all; the area shows none at first. -/
structure AllOrNothing (a₀ : Area) (calls : List Call) : Prop where
  /-- The area starts with the overlay without fragments. -/
  blank : a₀.overlay.IsBlank a₀.geometry a₀.schematics
  /-- The area shows what the last completed call leaves, as if it were the only one. -/
  last : a₀.after calls = (calls.reverse.findSome? fun c => (c.run a₀).toOption).getD a₀
  /-- That is the overlay of one set of fragments or the one without fragments. -/
  whole : a₀.Shows (a₀.after calls)
  /-- Clearing brings the first overlay back. -/
  cleared : (a₀.after calls).clear = .ok a₀ ∧ a₀.after (calls ++ [.clear]) = a₀
  /-- An installation shows the overlay that is built of its fragments. -/
  installed : ∀ f o, a₀.built f = .ok o →
    ((a₀.after calls).install f).exec.1 = .ok ({ a₀ with overlay := o }, o.summary) ∧
      a₀.after (calls ++ [.install f]) = { a₀ with overlay := o }
  /-- A build that stops has overflowed; the installation does too and changes nothing. -/
  overflowed : ∀ f fault, a₀.built f = .error fault →
    fault = .overflow ∧ ((a₀.after calls).install f).exec.1 = .error .overflow ∧
      a₀.after (calls ++ [.install f]) = a₀.after calls
  /-- A setup fails with the first kind that cannot be had, and brings the first overlay back. -/
  failed : ∀ tree source answer, FragmentSource.Answers source answer →
    ∀ before kind rest cause, [.sideroad, .intersection, .plot] = before ++ kind :: rest →
      (∀ k ∈ before, ∃ clip, answer (a₀.fragmentFile tree k) = .ok clip) →
      answer (a₀.fragmentFile tree kind) = .error cause →
        ((a₀.after calls).setup tree source).exec.1 = .ok (a₀, .error ⟨kind, cause⟩)
  /-- A setup whose fragments can all be had is the installation of exactly these. -/
  loaded : ∀ tree source answer, FragmentSource.Answers source answer →
    ∀ clips : FragmentKind → Option Clip,
      (∀ kind, answer (a₀.fragmentFile tree kind) = .ok (clips kind)) →
        let f : Fragments := ⟨clips .plot, clips .sideroad, clips .intersection⟩
        ((a₀.after calls).setup tree source).exec.1 =
            ((a₀.after calls).install f).exec.1.map (fun r => (r.1, .ok r.2)) ∧
          a₀.after (calls ++ [.setup tree source]) = a₀.after (calls ++ [.install f])
  /-- A setup that ends with a failure has brought the first overlay back, whatever the source. -/
  restored : ∀ tree source a e,
    ((a₀.after calls).setup tree source).exec.1 = .ok (a, .error e) →
      a = a₀ ∧ a₀.after (calls ++ [.setup tree source]) = a₀
  /-- A setup that stops changes nothing, whatever the source. -/
  stopped : ∀ tree source fault, ((a₀.after calls).setup tree source).exec.1 = .error fault →
    a₀.after (calls ++ [.setup tree source]) = a₀.after calls

end Area

/-- **Overlays are published as a whole or not at all**, over every history of calls in an area
that was made from a configuration. -/
theorem overlays_are_all_or_nothing {a₀ : Area} (haccepted : a₀.Accepted)
    (calls : List Area.Call) : a₀.AllOrNothing calls := by
  have hsound := haccepted.sound
  have hshows := hsound.shows_after calls
  have hvariant := hshows.variantOf
  -- no call looks at the overlay before it
  have hinstall (f : Fragments) : ((a₀.after calls).install f).exec.1 =
      (a₀.built f).map fun o => ({ a₀ with overlay := o }, o.summary) := by
    rw [hvariant.install_eq, (a₀.yields_install f).exec_eq]
  exact {
    blank := hsound.isBlank
    last := hsound.after_eq_last calls
    whole := hshows
    cleared := by
      have hclear := hvariant.clear_eq.trans hsound.clear_eq_ok
      exact ⟨hclear, Area.after_concat_of_ok hclear⟩
    installed := by
      intro f o ho
      have hok := hinstall f
      rw [ho] at hok
      exact ⟨hok, Area.after_concat_of_ok (congrArg (Except.map Prod.fst) hok)⟩
    overflowed := by
      intro f fault hfault
      have hoverflow := hsound.onlyOverflow_built f fault hfault
      have herror := hinstall f
      rw [hfault, hoverflow] at herror
      exact ⟨hoverflow, herror, Area.after_concat_of_error (congrArg (Except.map Prod.fst) herror)⟩
    failed := by
      intro tree source answer hanswers before kind rest cause horder hbefore hcause
      have hload := Fragments.yields_load_error hanswers horder hbefore hcause
      rw [hvariant.setup_eq, (Area.yields_setup_error hload).exec_eq, hsound.clear_eq_ok]
      rfl
    loaded := by
      intro tree source answer hanswers clips hclips f
      have hload := Fragments.yields_load hanswers hclips
      have hsetup : ((a₀.after calls).setup tree source).exec.1 =
          ((a₀.after calls).install f).exec.1.map fun r => (r.1, .ok r.2) := by
        rw [hvariant.setup_eq, (Area.yields_setup hload).exec_eq, hinstall]
        cases a₀.built f with
        | error fault => rfl
        | ok o => rfl
      have hrun : Area.Call.run (a₀.after calls) (.setup tree source) =
          Area.Call.run (a₀.after calls) (.install f) := by
        rw [Area.Call.run, Area.Call.run, hsetup]
        cases ((a₀.after calls).install f).exec.1 with
        | error fault => rfl
        | ok r => rfl
      refine ⟨hsetup, ?_⟩
      rw [Area.after_concat, Area.after_concat, Area.next, Area.next, hrun]
    restored := by
      intro tree source a e hsetup
      have harea : a = a₀ := by
        rcases Area.setup_eq_ok (hvariant.setup_eq tree source ▸ hsetup) with
          ⟨_, -, hclear⟩ | ⟨_, _, -, -, hresult⟩
        · exact Except.ok.inj (hclear.symm.trans hsound.clear_eq_ok)
        · cases hresult
      rw [harea] at hsetup
      exact ⟨harea, Area.after_concat_of_ok (congrArg (Except.map Prod.fst) hsetup)⟩
    stopped := by
      intro tree source fault hsetup
      exact Area.after_concat_of_error (congrArg (Except.map Prod.fst) hsetup) }

/-- Answers for a place where nothing but one file is missing and no other can be read. -/
def FragmentSource.missingOnly (missing path : String) : Except FragmentError (Option Clip) :=
  if path = missing then .ok none else .error (.undecodable path "no schematic")

/-- The fragments of a small cell are shown until a setup fails with its second file. -/
theorem overlays_are_all_or_nothing_of_small : ∃ o, Area.small.built .small = .ok o ∧
    o.hasPlot = true ∧ Area.small.after [.install .small] = { Area.small with overlay := o } ∧
    let tree := FileTree.empty "."
    let answer := FragmentSource.missingOnly (Area.small.fragmentFile tree .sideroad)
    ((Area.small.after [.install .small]).setup tree (.fixed answer)).exec.1 =
      .ok (.small, .error ⟨.intersection,
        .undecodable (Area.small.fragmentFile tree .intersection) "no schematic"⟩) := by
  obtain ⟨o, reports, hbuild⟩ := Area.small_build
  have hbuilt : Area.small.built .small = .ok o := congrArg Prod.fst hbuild
  refine ⟨o, hbuilt, (Overlay.start_of_build hbuild).2.2.1, ?_, ?_⟩
  · exact ((overlays_are_all_or_nothing Area.small_accepted []).installed _ o hbuilt).2
  · refine (overlays_are_all_or_nothing Area.small_accepted [.install .small]).failed _ _ _
      (FragmentSource.answers_fixed _) [.sideroad] .intersection [.plot] _ rfl ?_ ?_
    · intro k hk
      rw [List.mem_singleton.mp hk]
      exact ⟨none, if_pos rfl⟩
    · refine if_neg ?_
      unfold Area.fragmentFile FileTree.fragmentPath
      -- whichever endings the two files have, their names differ
      dsimp only
      split
      all_goals split
      all_goals decide +kernel

end PlotGrid
