import Dispatch.Proofs.Watch
import Dispatch.Processor

namespace Dispatch

variable {σ : Type} (cs : Collaborators σ)

section Submission

variable {c : Configuration} {job : NormalizedJob} {s : Shared σ} {q : Request}

theorem submit_of_invalid {e : ValidationError} (h : Request.build c job = .error e) :
    submit cs c job s = (.error (.failed (.validation e)), s) := by
  rw [submit, h]
  rfl

theorem submit_of_refused {e : ClientError} (h : Request.build c job = .ok q)
    (ha : (cs.answer (.create q) s.world).1 = .error e) :
    submit cs c job s = (.error (.failed (.remote e)), s.after cs (.create q)) := by
  rw [submit, h, Activity.bind_ok _ (Activity.ofExcept_ok _ s q),
    Activity.bind_error _ (Activity.perform_error cs ha)]

theorem submit_of_created (h : Request.build c job = .ok q)
    (ha : (cs.answer (.create q) s.world).1 = .ok ()) :
    submit cs c job s =
      (.ok { name := job.name, inputs := job.inputs, outputs := job.outputs },
        s.after cs (.create q)) := by
  rw [submit, h, Activity.bind_ok _ (Activity.ofExcept_ok _ s q),
    Activity.bind_ok _ (Activity.perform_ok cs ha)]
  rfl

end Submission

namespace Job

variable (job : Job) {streaming : Bool} {rounds : Nat} {s t : Shared σ}

theorem wait_of_ok {d : JobDescription} (h : job.follow cs streaming rounds s = (.ok d, t)) :
    job.wait cs streaming rounds s =
      ((job.outcome d, { job with terminalStatus := some d.status }), t) := by
  simp only [wait, bind, StateT.bind, ExceptT.run, h]
  rfl

theorem wait_of_error {e : Halt} (h : job.follow cs streaming rounds s = (.error e, t)) :
    job.wait cs streaming rounds s = ((.error e, job), t) := by
  simp only [wait, bind, StateT.bind, ExceptT.run, h]
  rfl

def settle (job : Job) : Except Halt JobDescription → Except Halt JobDescription × Job
  | .ok d => (job.outcome d, { job with terminalStatus := some d.status })
  | .error h => (.error h, job)

theorem wait_effect (streaming : Bool) (rounds : Nat) (s : Shared σ) :
    ∃ t r, Effect cs s t (job.wait cs streaming rounds s).2 ∧ Follows job.name streaming t r ∧
      (job.wait cs streaming rounds s).1 = job.settle r := by
  obtain ⟨t, ht, hF⟩ := job.follow_follows cs streaming rounds s
  rcases hf : job.follow cs streaming rounds s with ⟨e | d, u⟩
  · rw [hf] at ht hF
    rw [wait_of_error cs job hf]
    exact ⟨t, _, ht, hF, rfl⟩
  · rw [hf] at ht hF
    rw [wait_of_ok cs job hf]
    exact ⟨t, _, ht, hF, rfl⟩

theorem outcome_ne_remote (d : JobDescription) (e : ClientError) :
    job.outcome d ≠ .error (.failed (.remote e)) := by
  unfold outcome
  split <;> intro h <;> cases h

end Job

/-- The plan that a hook leaves, and its inputs made whole. -/
def Plan.gather (hook : Hook σ) (plan : Plan) : Activity σ (Plan × List InputDescriptor) := do
  let plan ← Staged.apply hook plan
  let inputs ← normalizeInputs cs plan.jobName plan.inputs
  return (plan, inputs)

namespace Plan

variable {hook : Hook σ} {plan : Plan} {s t : Shared σ}

theorem gather_of_error {e : Halt} (h : Staged.apply hook plan s = (.error e, t)) :
    plan.gather cs hook s = (.error e, t) :=
  Activity.bind_error _ h

theorem gather_of_ok {plan' : Plan} (h : Staged.apply hook plan s = (.ok plan', t)) :
    plan.gather cs hook s =
      ((normalizeInputs cs plan'.jobName plan'.inputs t).1.map (plan', ·),
        (normalizeInputs cs plan'.jobName plan'.inputs t).2) := by
  rw [gather, Activity.bind_ok _ h, Activity.bind_pure_apply]

end Plan

namespace Processor

def prepare (c : Configuration) (hook : Hook σ) (o : RunOptions) : Activity σ NormalizedJob := do
  Activity.ofExcept .typeConstraint (checkInputs o.inputs)
  let jobName ← resolveJobName cs c o.jobName
  let (plan, inputs) ← Plan.gather cs hook { jobName, inputs := o.inputs, outputs := o.outputs }
  let outputs ← normalizeOutputs cs plan.jobName plan.outputs
  return { name := plan.jobName, inputs, outputs, entrypoint := plan.entrypoint }

theorem start_eq (c : Configuration) (hook : Hook σ) (o : RunOptions) :
    start cs c hook o = prepare cs c hook o >>= submit cs c := by
  simp only [start, prepare, Plan.gather, bind_assoc, pure_bind]

variable {rounds : Nat} {hook : Hook σ} {p : Processor} {o : RunOptions} {s t : Shared σ}

theorem runWithHook_of_error {e : Halt} (h : start cs p.configuration hook o s = (.error e, t)) :
    p.runWithHook cs rounds hook o s = ((.error e, p), t) := by
  simp only [runWithHook, bind, StateT.bind, ExceptT.run, h]
  rfl

theorem runWithHook_of_left {job : Job} (h : start cs p.configuration hook o s = (.ok job, t))
    (hw : o.wait = false) :
    p.runWithHook cs rounds hook o s = ((.ok job, { p with jobs := p.jobs ++ [job] }), t) := by
  simp only [runWithHook, bind, StateT.bind, ExceptT.run, h, hw]
  rfl

theorem runWithHook_of_waited {job job' : Job} {r : Except Halt JobDescription} {u : Shared σ}
    (h : start cs p.configuration hook o s = (.ok job, t)) (hw : o.wait = true)
    (hwait : job.wait cs o.logs rounds t = ((r, job'), u)) :
    p.runWithHook cs rounds hook o s =
      ((r.map fun _ => job', { p with jobs := p.jobs ++ [job'] }), u) := by
  simp only [runWithHook, bind, StateT.bind, ExceptT.run, h, hw, if_true, hwait]
  rfl

end Processor

end Dispatch
