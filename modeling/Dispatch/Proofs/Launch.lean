import Dispatch.Proofs.Adjustment
import Dispatch.Proofs.Mounting
import Dispatch.Proofs.Placement

namespace Dispatch

open Activity

variable {σ : Type} (cs : Collaborators σ)

def Plan.complete (plan : Plan) : Activity σ NormalizedJob := do
  let inputs ← normalizeInputs cs plan.jobName plan.inputs
  let outputs ← normalizeOutputs cs plan.jobName plan.outputs
  return { name := plan.jobName, inputs, outputs, entrypoint := plan.entrypoint }

inductive Completes (plan : Plan) (known : Option String) :
    List Event → Except Halt NormalizedJob → Prop
  | constrained {e} (hc : checkInputs plan.inputs = .error e) :
      Completes plan known [] (.error (.failed (.typeConstraint e)))
  | unsettled {ds t h} (hds : plan.inputs = ds.map .descriptor)
      (hi : Settles plan.jobName known 1 ds t (.error h)) : Completes plan known t (.error h)
  | unplaced {ds t inputs u h} (hds : plan.inputs = ds.map .descriptor)
      (hi : Settles plan.jobName known 1 ds t (.ok inputs))
      (ho : Places plan.jobName (known.or (located t)) 1 plan.outputs u (.error h)) :
      Completes plan known (t ++ u) (.error h)
  | whole {ds t inputs u outputs} (hds : plan.inputs = ds.map .descriptor)
      (hi : Settles plan.jobName known 1 ds t (.ok inputs))
      (ho : Places plan.jobName (known.or (located t)) 1 plan.outputs u (.ok outputs)) :
      Completes plan known (t ++ u) (.ok ⟨plan.jobName, inputs, outputs, plan.entrypoint⟩)

inductive Submits (c : Configuration) (job : NormalizedJob) : List Event → Except Halt Job → Prop
  | invalid {e} (hb : Request.build c job = .error e) :
      Submits c job [] (.error (.failed (.validation e)))
  | refused {q} (hb : Request.build c job = .ok q) (e) :
      Submits c job [.called (.create q) (.error e)] (.error (.failed (.remote e)))
  | created {q} (hb : Request.build c job = .ok q) :
      Submits c job [.called (.create q) (.ok ())] (.ok ⟨job.name, job.inputs, job.outputs, none⟩)

inductive Launches (c : Configuration) (plan : Plan) (known : Option String) :
    List Event → Except Halt Job → Prop
  | incomplete {t h} (hc : Completes plan known t (.error h)) : Launches c plan known t (.error h)
  | submitted {t job u r} (hc : Completes plan known t (.ok job)) (hs : Submits c job u r) :
      Launches c plan known (t ++ u) r

/-- How a job can be started under a name, by a run with hook `a`. -/
inductive Starts (c : Configuration) (o : RunOptions) (a : Adjustment) (name : String)
    (known : Option String) : List Event → Except Halt Job → Prop
  | constrained {e} (hc : checkInputs o.inputs = .error e) :
      Starts c o a name known [] (.error (.failed (.typeConstraint e)))
  | unadjusted {t h} (ho : ∀ c ∈ o.inputs, c.isDescriptor = true)
      (ha : Adjusts a ⟨name, o.inputs, o.outputs, none⟩ known t (.error h)) :
      Starts c o a name known t (.error h)
  | launched {t plan u r} (ho : ∀ c ∈ o.inputs, c.isDescriptor = true)
      (ha : Adjusts a ⟨name, o.inputs, o.outputs, none⟩ known t (.ok plan))
      (hl : Launches c plan (known.or (located t)) u r) : Starts c o a name known (t ++ u) r

inductive Runs (p : Processor) (o : RunOptions) (a : Adjustment) (name : String)
    (known : Option String) : List Event → Except Halt Job → Processor → Prop
  | unstarted {t h} (hs : Starts p.configuration o a name known t (.error h)) :
      Runs p o a name known t (.error h) p
  | left {t job} (hs : Starts p.configuration o a name known t (.ok job)) (hw : o.wait = false) :
      Runs p o a name known t (.ok job) { p with jobs := p.jobs ++ [job] }
  | followed {t job u r} (hs : Starts p.configuration o a name known t (.ok job))
      (hw : o.wait = true) (hf : Follows job.name o.logs u r) :
      Runs p o a name known (t ++ u) ((job.settle r).1.map fun _ => (job.settle r).2)
        { p with jobs := p.jobs ++ [(job.settle r).2] }

theorem Plan.complete_completes (plan : Plan) (s : Shared σ) :
    ∃ t, Effect cs s t (plan.complete cs s).2 ∧ Completes plan s.bucket t (plan.complete cs s).1 := by
  rw [complete, normalizeInputs, bind_assoc]
  cases hc : checkInputs plan.inputs with
  | error e =>
      rw [bind_error _ (ofExcept_error _ s e)]
      exact ⟨[], .refl s, .constrained hc⟩
  | ok u =>
      rw [bind_ok _ (ofExcept_ok _ s u)]
      have hds := eq_map_descriptor (checkInputs_ok_iff.1 hc)
      let ds := plan.inputs.filterMap Channel.descriptor?
      obtain ⟨t, ht, hN⟩ := normalizeInputsFrom_normalizes cs plan.jobName 1 ds s
      rcases hi : normalizeInputsFrom cs plan.jobName 1 ds s with ⟨h | inputs, s'⟩
      · rw [hi] at ht hN
        rw [bind_error _ hi]
        exact ⟨t, ht, .unsettled hds hN.settles⟩
      · rw [hi] at ht hN
        rw [bind_ok _ hi, bind_pure_apply]
        obtain ⟨u, hu, hP⟩ := normalizeOutputsFrom_places cs plan.jobName 1 plan.outputs s'
        rw [ht.bucket] at hP
        refine ⟨t ++ u, ht.trans hu, ?_⟩
        cases ho : (normalizeOutputs cs plan.jobName plan.outputs s').1 with
        | error h => exact .unplaced hds hN.settles (ho ▸ hP)
        | ok outputs => exact .whole hds hN.settles (ho ▸ hP)

theorem submit_submits (c : Configuration) (job : NormalizedJob) (s : Shared σ) :
    ∃ t, Effect cs s t (submit cs c job s).2 ∧ Submits c job t (submit cs c job s).1 := by
  cases hb : Request.build c job with
  | error e =>
      rw [submit_of_invalid cs hb]
      exact ⟨[], .refl s, .invalid hb⟩
  | ok q =>
      cases ha : (cs.answer (.create q) s.world).1 with
      | error e =>
          rw [submit_of_refused cs hb ha]
          exact ⟨_, .call s (by simp) ha, .refused hb e⟩
      | ok u =>
          rw [submit_of_created cs hb ha]
          exact ⟨_, .call s (by simp) ha, .created hb⟩

namespace Processor

theorem launch_eq (c : Configuration) (plan : Plan) :
    launch cs c plan = plan.complete cs >>= submit cs c := by
  simp only [launch, Plan.complete, bind_assoc, pure_bind]

theorem launch_launches (c : Configuration) (plan : Plan) (s : Shared σ) :
    ∃ t, Effect cs s t (launch cs c plan s).2 ∧
      Launches c plan s.bucket t (launch cs c plan s).1 := by
  obtain ⟨t, ht, hC⟩ := plan.complete_completes cs s
  rw [launch_eq]
  rcases hx : plan.complete cs s with ⟨h | job, s'⟩
  · rw [hx] at ht hC
    rw [bind_error _ hx]
    exact ⟨t, ht, .incomplete hC⟩
  · rw [hx] at ht hC
    rw [bind_ok _ hx]
    obtain ⟨u, hu, hS⟩ := submit_submits cs c job s'
    exact ⟨t ++ u, ht.trans hu, .submitted hC hS⟩

theorem start_starts (c : Configuration) (o : RunOptions) (a : Adjustment) (s : Shared σ) :
    ∃ w t, Effect cs { s with world := w } t (start cs c (a.hook cs) o s).2 ∧
      Starts c o a (chosenName cs c o.jobName s.world) s.bucket t (start cs c (a.hook cs) o s).1 := by
  cases hc : checkInputs o.inputs with
  | error e =>
      rw [start, hc, bind_error _ (ofExcept_error _ s e)]
      exact ⟨s.world, [], .refl s, .constrained hc⟩
  | ok u =>
      have ho := checkInputs_ok_iff.1 hc
      obtain ⟨w, hname⟩ := resolveJobName_chosen cs c o.jobName s
      rw [start_eq_launch cs ho, bind_ok _ hname]
      let plan : Plan := ⟨chosenName cs c o.jobName s.world, o.inputs, o.outputs, none⟩
      obtain ⟨t, ht, hA⟩ := a.apply_adjusts cs plan { s with world := w }
      rcases hx : Staged.apply (a.hook cs) plan { s with world := w } with ⟨h | plan', s'⟩
      · rw [hx] at ht hA
        rw [bind_error _ hx]
        exact ⟨w, t, ht, .unadjusted ho hA⟩
      · rw [hx] at ht hA
        rw [bind_ok _ hx]
        obtain ⟨u, hu, hL⟩ := launch_launches cs c plan' s'
        rw [ht.bucket] at hL
        exact ⟨w, t ++ u, ht.trans hu, .launched ho hA hL⟩

variable (p : Processor) (rounds : Nat) (o : RunOptions)

theorem runWithHook_runs (a : Adjustment) (s : Shared σ) :
    ∃ w t, Effect cs { s with world := w } t (p.runWithHook cs rounds (a.hook cs) o s).2 ∧
      Runs p o a (chosenName cs p.configuration o.jobName s.world) s.bucket t
        (p.runWithHook cs rounds (a.hook cs) o s).1.1
        (p.runWithHook cs rounds (a.hook cs) o s).1.2 := by
  obtain ⟨w, t, ht, hS⟩ := start_starts cs p.configuration o a s
  rcases hs : start cs p.configuration (a.hook cs) o s with ⟨h | job, s'⟩
  · rw [hs] at ht hS
    rw [runWithHook_of_error cs hs]
    exact ⟨w, t, ht, .unstarted hS⟩
  · rw [hs] at ht hS
    cases hw : o.wait with
    | false =>
        rw [runWithHook_of_left cs hs hw]
        exact ⟨w, t, ht, .left hS hw⟩
    | true =>
        obtain ⟨u, x, hu, hF, hx⟩ := job.wait_effect cs o.logs rounds s'
        rcases hwait : job.wait cs o.logs rounds s' with ⟨⟨r, job'⟩, s''⟩
        rw [hwait] at hu hx
        rw [runWithHook_of_waited cs hs hw hwait]
        have hrun := Runs.followed hS hw hF
        rw [← hx] at hrun
        exact ⟨w, t ++ u, ht.trans hu, hrun⟩

theorem run_runs (s : Shared σ) :
    ∃ w t, Effect cs { s with world := w } t (p.run cs rounds o s).2 ∧
      Runs p o .done (chosenName cs p.configuration o.jobName s.world) s.bucket t
        (p.run cs rounds o s).1.1 (p.run cs rounds o s).1.2 := by
  rw [run, ← Adjustment.hook_done cs]
  exact p.runWithHook_runs cs rounds o .done s

end Processor

theorem ScriptProcessor.run_runs (fs : File.System) (rounds : Nat) (p : ScriptProcessor)
    (source : String) (scriptName : Option String) (o : RunOptions) (s : Shared σ) :
    let adjustment := ScriptSource.adjustment { source, scriptName, tag := p.tag } fs
    ∃ w t p', Effect cs { s with world := w } t (p.run cs fs rounds source scriptName o s).2 ∧
      (p.run cs fs rounds source scriptName o s).1.2 = { p with processor := p' } ∧
      Runs p.processor o adjustment (chosenName cs p.processor.configuration o.jobName s.world)
        s.bucket t (p.run cs fs rounds source scriptName o s).1.1 p' := by
  intro adjustment
  obtain ⟨w, t, ht, hR⟩ := p.processor.runWithHook_runs cs rounds o adjustment s
  rw [ScriptSource.hook_adjustment] at ht hR
  exact ⟨w, t, _, ht, rfl, hR⟩

end Dispatch
