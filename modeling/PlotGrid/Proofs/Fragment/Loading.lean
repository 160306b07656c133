import PlotGrid.Fragment.Set
import PlotGrid.Proofs.Outcome

/-!
# Loading fragments

The fragments of an area are loaded kind by kind. The first kind that fails is the failure, whatever
the later ones would be; if none fails, each kind has its own clip.

- `FragmentSource.Answers`: what a source gives to each path.
- `FragmentSource.fixed`: the source of given answers.
- `Fragments.yields_loadKind`, `Fragments.yields_loadKind_error`: one kind.
- `Fragments.yields_load`, `Fragments.yields_load_error`: all kinds.
-/

namespace PlotGrid

/-! ## Sources -/

namespace FragmentSource

/-- The source gives these answers, whatever was reported before. -/
def Answers (source : FragmentSource) (answer : String → Except FragmentError (Option Clip)) :
    Prop :=
  ∀ path, (source path).run.Yields (.ok (answer path))

/-- The source that gives these answers and reports nothing. -/
def fixed (answer : String → Except FragmentError (Option Clip)) : FragmentSource :=
  fun path => ExceptT.mk (pure (answer path))

theorem answers_fixed (answer : String → Except FragmentError (Option Clip)) :
    (fixed answer).Answers answer :=
  fun path => .ok (answer path)

end FragmentSource

namespace Fragments

variable {tree : FileTree} {source : FragmentSource} {dir : String}
  {answer : String → Except FragmentError (Option Clip)}

/-! ## One kind -/

theorem yields_loadKind (h : source.Answers answer) {kind : FragmentKind} {clip : Option Clip}
    (hclip : answer (tree.fragmentPath dir kind) = .ok clip) (f : Fragments) :
    (loadKind tree source dir f kind).run.Yields (.ok (.ok (f.set kind clip))) := by
  have hanswer := h (tree.fragmentPath dir kind)
  rw [hclip] at hanswer
  refine .attempt (hanswer.adapt _) ?_
  dsimp only
  split
  · exact fun notices => ⟨_, rfl⟩
  · exact .ok _

theorem yields_loadKind_error (h : source.Answers answer) {kind : FragmentKind}
    {cause : FragmentError} (hcause : answer (tree.fragmentPath dir kind) = .error cause)
    (f : Fragments) :
    (loadKind tree source dir f kind).run.Yields (.ok (.error ⟨kind, cause⟩)) := by
  have hanswer := h (tree.fragmentPath dir kind)
  rw [hcause] at hanswer
  exact .attempt_error (hanswer.adapt _) _

/-! ## All kinds -/

/-- Kinds that all have an answer are all set. -/
theorem yields_foldlM (h : source.Answers answer) {kinds : List FragmentKind}
    {clips : FragmentKind → Option Clip}
    (hclips : ∀ kind ∈ kinds, answer (tree.fragmentPath dir kind) = .ok (clips kind))
    (f : Fragments) :
    (kinds.foldlM (loadKind tree source dir) f).run.Yields
      (.ok (.ok (kinds.foldl (fun f kind => f.set kind (clips kind)) f))) := by
  induction kinds generalizing f with
  | nil => exact .ok _
  | cons kind rest ih =>
    rw [List.foldlM_cons]
    refine .attempt (yields_loadKind h (hclips kind List.mem_cons_self) f) ?_
    exact ih (fun k hk => hclips k (List.mem_cons_of_mem kind hk)) _

/-- The first kind without an answer ends the loading. -/
theorem yields_foldlM_error (h : source.Answers answer) {before rest : List FragmentKind}
    {kind : FragmentKind} {cause : FragmentError}
    (hbefore : ∀ k ∈ before, ∃ clip, answer (tree.fragmentPath dir k) = .ok clip)
    (hcause : answer (tree.fragmentPath dir kind) = .error cause) (f : Fragments) :
    ((before ++ kind :: rest).foldlM (loadKind tree source dir) f).run.Yields
      (.ok (.error ⟨kind, cause⟩)) := by
  induction before generalizing f with
  | nil =>
    rw [List.nil_append, List.foldlM_cons]
    exact .attempt_error (yields_loadKind_error h hcause f) _
  | cons k before ih =>
    obtain ⟨clip, hclip⟩ := hbefore k List.mem_cons_self
    rw [List.cons_append, List.foldlM_cons]
    refine .attempt (yields_loadKind h hclip f) ?_
    exact ih (fun k' hk' => hbefore k' (List.mem_cons_of_mem k hk')) _

/-- **Fragments that can all be had are all loaded**, each into its own place. -/
theorem yields_load (h : source.Answers answer) {clips : FragmentKind → Option Clip}
    (hclips : ∀ kind, answer (tree.fragmentPath dir kind) = .ok (clips kind)) :
    (load tree source dir).run.Yields
      (.ok (.ok ⟨clips .plot, clips .sideroad, clips .intersection⟩)) :=
  yields_foldlM h (fun kind _ => hclips kind) none

/-- **The first kind that fails is the failure.** -/
theorem yields_load_error (h : source.Answers answer) {before rest : List FragmentKind}
    {kind : FragmentKind} {cause : FragmentError}
    (horder : FragmentKind.all = before ++ kind :: rest)
    (hbefore : ∀ k ∈ before, ∃ clip, answer (tree.fragmentPath dir k) = .ok clip)
    (hcause : answer (tree.fragmentPath dir kind) = .error cause) :
    (load tree source dir).run.Yields (.ok (.error ⟨kind, cause⟩)) := by
  rw [load, horder]
  exact yields_foldlM_error h hbefore hcause none

end Fragments

end PlotGrid
