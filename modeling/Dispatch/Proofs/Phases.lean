import Dispatch.Proofs.Run

namespace Dispatch

open Activity

variable {σ : Type} (cs : Collaborators σ)

def Event.IsPreparation : Event → Prop
  | .called .defaultBucket _ | .called (.upload ..) _ => True
  | _ => False

section Preparation

variable (job : String)

theorem upload_confined (path uri : String) : Confined Event.IsPreparation (upload cs path uri) :=
  Confined.perform cs fun _ => trivial

theorem defaultBucket_confined : Confined Event.IsPreparation (defaultBucket cs) :=
  Confined.defaultBucket cs fun _ => trivial

theorem InputDescriptor.normalize_confined (position : Nat) (d : InputDescriptor) :
    Confined Event.IsPreparation (d.normalize cs job position) := by
  unfold InputDescriptor.normalize
  dsimp only
  split
  · exact .pure _
  · apply Confined.bind (defaultBucket_confined cs)
    intro bucket
    apply Confined.bind (upload_confined cs _ _)
    intro source
    exact .pure _

theorem normalizeInputsFrom_confined (position : Nat) (ds : List InputDescriptor) :
    Confined Event.IsPreparation (normalizeInputsFrom cs job position ds) := by
  induction ds generalizing position with
  | nil => exact .pure _
  | cons d ds ih =>
      apply Confined.bind (d.normalize_confined cs job position)
      intro d'
      apply Confined.bind (ih (position + 1))
      intro ds'
      exact .pure _

theorem normalizeInputs_confined (inputs : List (Channel InputDescriptor)) :
    Confined Event.IsPreparation (normalizeInputs cs job inputs) := by
  apply Confined.bind (.ofExcept TypeConstraint.isFault _)
  intro u
  exact normalizeInputsFrom_confined cs job 1 _

theorem Channel.toOutput_confined (c : Channel OutputDescriptor) :
    Confined Event.IsPreparation (c.toOutput cs job) := by
  cases c with
  | descriptor d => exact .pure _
  | path source =>
      apply Confined.bind (defaultBucket_confined cs)
      intro bucket
      exact .pure _

theorem normalizeOutputsFrom_confined (position : Nat) (outputs : List (Channel OutputDescriptor)) :
    Confined Event.IsPreparation (normalizeOutputsFrom cs job position outputs) := by
  induction outputs generalizing position with
  | nil => exact .pure _
  | cons c rest ih =>
      apply Confined.bind (c.toOutput_confined cs job)
      intro d
      apply Confined.bind (ih (position + 1))
      intro ds
      exact .pure _

theorem resolveJobName_confined (c : Configuration) (name : Option String) :
    Confined Event.IsPreparation (resolveJobName cs c name) := by
  cases name with
  | some name => exact .pure _
  | none =>
      apply Confined.bind (.now cs)
      intro t
      exact .pure _

theorem Plan.gather_confined {hook : Hook σ}
    (hh : ∀ plan, Confined Event.IsPreparation (Staged.apply hook plan)) (plan : Plan) :
    Confined Event.IsPreparation (plan.gather cs hook) := by
  apply Confined.bind (hh plan)
  intro plan'
  apply Confined.bind (normalizeInputs_confined cs _ _)
  intro inputs
  exact .pure _

theorem Processor.prepare_confined (c : Configuration) {hook : Hook σ} (o : RunOptions)
    (hh : ∀ plan, Confined Event.IsPreparation (Staged.apply hook plan)) :
    Confined Event.IsPreparation (Processor.prepare cs c hook o) := by
  apply Confined.bind (.ofExcept TypeConstraint.isFault _)
  intro u
  apply Confined.bind (resolveJobName_confined cs c _)
  intro name
  apply Confined.bind (Plan.gather_confined cs hh _)
  intro gathered
  apply Confined.bind (normalizeOutputsFrom_confined cs _ _ _)
  intro outputs
  exact .pure _

theorem ScriptSource.hook_confined (fs : File.System) (source : ScriptSource) (plan : Plan) :
    Confined Event.IsPreparation (Staged.apply (source.hook cs fs) plan) := by
  rw [Staged.apply_hook]
  apply Confined.bind (.ofExcept ValidationError.isFault _)
  intro program
  apply Confined.bind
  · unfold ship
    split
    · exact .pure _
    · apply Confined.bind (defaultBucket_confined cs)
      intro bucket
      exact upload_confined cs _ _
  · intro address
    exact .pure _

end Preparation

/-- What is returned for a job once it exists, with its handle as it is then: the handle, or why
waiting for the job ended otherwise. -/
inductive Left (job : Job) : Except Halt Job → Prop
  | returned (hx : ∀ x ∈ job.terminalStatus, x.isTerminal ∧ x ≠ .failed) : Left job (.ok job)
  | cut {h : Halt} (hx : job.terminalStatus = none) (hc : h.CutsWait) : Left job (.error h)
  | failed (hx : job.terminalStatus = some .failed) (reason : String) :
      Left job (.error (.failed (.jobFailed job.name reason)))

theorem Left.terminal {job : Job} {r : Except Halt Job} (h : Left job r) :
    ∀ x ∈ job.terminalStatus, x.isTerminal := by
  cases h with
  | returned hx => exact fun x h => (hx x h).1
  | cut hx hc => simp [hx]
  | failed hx reason => simp [hx, JobStatus.isTerminal]

namespace Job

variable {job : Job} (streaming : Bool)

theorem left_settle {t : List Event} {r : Except Halt JobDescription}
    (hnone : job.terminalStatus = none) (h : Follows job.name streaming t r) :
    ∃ status, (job.settle r).2 = { job with terminalStatus := status } ∧
      Left (job.settle r).2 ((job.settle r).1.map fun _ => (job.settle r).2) := by
  cases r with
  | error h' => exact ⟨none, by rw [← hnone]; rfl, .cut hnone h.cuts⟩
  | ok d =>
      refine ⟨some d.status, rfl, ?_⟩
      by_cases hd : d.status = .failed
      · simp only [settle, outcome, hd, if_true]
        exact .failed rfl _
      · simp only [settle, outcome, hd, if_false]
        exact .returned (by simpa using ⟨h.terminal, hd⟩)

theorem wait_observes (rounds : Nat) (hnone : job.terminalStatus = none) (s : Shared σ) :
    ∃ t status, (job.wait cs streaming rounds s).2.trace = s.trace ++ t ∧
      (∀ e ∈ t, e.IsObservation streaming) ∧
      (job.wait cs streaming rounds s).1.2 = { job with terminalStatus := status } ∧
      Ends t (job.wait cs streaming rounds s).1.1 ∧
      Left (job.wait cs streaming rounds s).1.2
        ((job.wait cs streaming rounds s).1.1.map fun _ =>
          (job.wait cs streaming rounds s).1.2) := by
  obtain ⟨t, r, ht, hF, hr⟩ := job.wait_effect cs streaming rounds s
  obtain ⟨status, hj, hL⟩ := left_settle streaming hnone hF
  rw [hr]
  refine ⟨t, status, ht.trace, hF.observing, hj, ?_, hL⟩
  cases r with
  | error h => exact hF.ends.retype
  | ok d => exact .quietly hF.ends.quiet_of_ok (job.outcome_ne_remote d)

end Job

inductive Started (c : Configuration) : List Event → Except Halt Job → Prop
  | failed {t} {h : Halt} (hP : ∀ e ∈ t, e.IsPreparation) (hE : Ends t (.error h : Except Halt Job))
      (hc : h.CutsStart) : Started c t (.error h)
  | refused {t q e} {job : NormalizedJob} (hP : ∀ e ∈ t, e.IsPreparation) (hq : Quiet t)
      (hb : Request.build c job = .ok q) :
      Started c (t ++ [.called (.create q) (.error e)]) (.error (.failed (.remote e)))
  | created {t q} {job : NormalizedJob} (hP : ∀ e ∈ t, e.IsPreparation) (hq : Quiet t)
      (hb : Request.build c job = .ok q) :
      Started c (t ++ [.called (.create q) (.ok ())])
        (.ok ⟨job.name, job.inputs, job.outputs, none⟩)

/-- The ways in which a run can end. Once a job has been created it is kept, whatever follows. -/
inductive Ran (p : Processor) (o : RunOptions) : List Event → Except Halt Job → Processor → Prop
  | unstarted {t} {h : Halt} (hs : Started p.configuration t (.error h)) : Ran p o t (.error h) p
  | kept {t u} {job : Job} {r : Except Halt Job} (status : Option JobStatus)
      (hs : Started p.configuration t (.ok job)) (hw : u ≠ [] → o.wait = true)
      (hO : ∀ e ∈ u, e.IsObservation o.logs) (hE : Ends u r)
      (hL : Left { job with terminalStatus := status } r) :
      Ran p o (t ++ u) r { p with jobs := p.jobs ++ [{ job with terminalStatus := status }] }

namespace Processor

variable {hook : Hook σ}

theorem start_started (hh : ∀ plan, Confined Event.IsPreparation (Staged.apply hook plan))
    (c : Configuration) (o : RunOptions) (s : Shared σ) :
    ∃ t, (start cs c hook o s).2.trace = s.trace ++ t ∧ Started c t (start cs c hook o s).1 := by
  obtain ⟨t, ht, hP, hE, hC⟩ := prepare_confined cs c o hh s
  rw [start_eq]
  rcases hp : prepare cs c hook o s with ⟨e | job, u⟩
  · rw [hp] at ht hE hC
    rw [bind_error _ hp]
    exact ⟨t, ht, .failed hP hE.retype (hC e rfl)⟩
  · rw [hp] at ht hE
    rw [bind_ok _ hp]
    have hq := hE.quiet_of_ok
    cases hb : Request.build c job with
    | error e =>
        rw [submit_of_invalid cs hb]
        exact ⟨t, ht, .failed hP (.quietly hq (by intro e he; cases he)) ⟨_, rfl, .inl trivial⟩⟩
    | ok q =>
        have ht' (reply : Except ClientError Unit) : u.trace ++ [.called (.create q) reply] =
            s.trace ++ (t ++ [.called (.create q) reply]) := by
          rw [← List.append_assoc, ← ht]
        cases ha : (cs.answer (.create q) u.world).1 with
        | error e =>
            rw [submit_of_refused cs hb ha]
            refine ⟨_, ?_, .refused hP hq hb⟩
            rw [← ht', ← ha]
            rfl
        | ok a =>
            rw [submit_of_created cs hb ha]
            refine ⟨_, ?_, .created hP hq hb⟩
            rw [← ht']
            change u.trace ++ [.called (.create q) (cs.answer (.create q) u.world).1] = _
            rw [ha]

theorem runWithHook_ran (rounds : Nat)
    (hh : ∀ plan, Confined Event.IsPreparation (Staged.apply hook plan))
    (p : Processor) (o : RunOptions) (s : Shared σ) :
    ∃ t, (p.runWithHook cs rounds hook o s).2.trace = s.trace ++ t ∧
      Ran p o t (p.runWithHook cs rounds hook o s).1.1 (p.runWithHook cs rounds hook o s).1.2 := by
  obtain ⟨t, ht, hS⟩ := start_started cs hh p.configuration o s
  rcases hs : start cs p.configuration hook o s with ⟨e | job, u⟩
  · rw [hs] at ht hS
    rw [runWithHook_of_error cs hs]
    exact ⟨t, ht, .unstarted hS⟩
  · rw [hs] at ht hS
    have hjob : job.terminalStatus = none := by cases hS; rfl
    have he : { job with terminalStatus := none } = job := by rw [← hjob]
    cases hw : o.wait with
    | false =>
        have hL : Left { job with terminalStatus := none } (.ok job) := by
          rw [he]
          exact .returned (by simp [hjob])
        have hk :=
          Ran.kept (p := p) (o := o) (u := []) none hS (by simp) (by simp) (.ok quiet_nil job) hL
        rw [runWithHook_of_left cs hs hw]
        rw [he, List.append_nil] at hk
        exact ⟨t, ht, hk⟩
    | true =>
        obtain ⟨v, status, hv, hO, hj, hE, hL⟩ := Job.wait_observes cs o.logs rounds hjob u
        rcases hwait : job.wait cs o.logs rounds u with ⟨⟨r, job'⟩, u'⟩
        rw [hwait] at hv hE hj hL
        rw [runWithHook_of_waited cs hs hw hwait]
        subst hj
        refine ⟨t ++ v, ?_, .kept status hS (fun _ => hw) hO ?_ hL⟩
        · rw [hv, ht, List.append_assoc]
        · cases r with
          | error e => exact hE.retype
          | ok d => exact .ok hE.quiet_of_ok _

end Processor

theorem Started.ends {c : Configuration} {t : List Event} {r : Except Halt Job}
    (h : Started c t r) : Ends t r := by
  cases h with
  | failed hP hE hc => exact hE
  | refused hP hq hb => exact .failing hq _ _
  | created hP hq hb => exact .ok (hq.append (quiet_call (.create _) ())) _

theorem Ran.ends {p p' : Processor} {o : RunOptions} {t : List Event} {r : Except Halt Job}
    (h : Ran p o t r p') : Ends t r := by
  cases h with
  | unstarted hs => exact hs.ends
  | kept status hs hw hO hE hL => exact hE.append hs.ends.quiet_of_ok

/-- What holds of the events of one run and of its result: the events come in phases, a failed call
is the last of them and the result, and no other run ends in a remote error. -/
structure RunLaw (o : RunOptions) (t : List Event) (r : Except Halt Job) : Prop where
  phases : ∃ before creation after, t = before ++ creation ++ after ∧
    (∀ e ∈ before, e.IsPreparation) ∧
    (creation = [] ∨ ∃ q reply, creation = [.called (.create q) reply]) ∧
    (∀ e ∈ after, e.IsObservation o.logs) ∧
    (after ≠ [] → o.wait = true ∧ ∃ q, creation = [.called (.create q) (.ok ())])
  stops : ∀ earlier c e later, t = earlier ++ .called c (.error e) :: later →
    later = [] ∧ r = .error (.failed (.remote e))
  blames : ∀ e, r = .error (.failed (.remote e)) →
    ∃ earlier c, t = earlier ++ [.called c (.error e)]

theorem Ran.law {p p' : Processor} {o : RunOptions} {t : List Event} {r : Except Halt Job}
    (h : Ran p o t r p') : RunLaw o t r where
  stops := by
    intro earlier c e later ht
    exact (ht ▸ h.ends).failure_last
  blames := by
    intro e hr
    subst hr
    exact h.ends.last_failure
  phases := by
    cases h with
    | unstarted hs =>
        cases hs with
        | failed hP hE hc => exact ⟨t, [], [], by simp, hP, .inl rfl, by simp, by simp⟩
        | refused hP hq hb =>
            exact ⟨_, _, [], (List.append_nil _).symm, hP, .inr ⟨_, _, rfl⟩, by simp, by simp⟩
    | kept status hs hw hO hE hL =>
        cases hs with
        | created hP hq hb =>
            exact ⟨_, _, _, rfl, hP, .inr ⟨_, _, rfl⟩, hO, fun hu => ⟨hw hu, _, rfl⟩⟩

theorem Processor.run_ran (rounds : Nat) (p : Processor) (o : RunOptions) (s : Shared σ) :
    ∃ t, (p.run cs rounds o s).2.trace = s.trace ++ t ∧
      Ran p o t (p.run cs rounds o s).1.1 (p.run cs rounds o s).1.2 := by
  have hh (plan : Plan) : Confined Event.IsPreparation (Staged.apply (.none : Hook σ) plan) :=
    .pure plan
  exact p.runWithHook_ran cs rounds hh o s

theorem ScriptProcessor.run_ran (fs : File.System) (rounds : Nat) (p : ScriptProcessor)
    (source : String) (scriptName : Option String) (o : RunOptions) (s : Shared σ) :
    ∃ t, (p.run cs fs rounds source scriptName o s).2.trace = s.trace ++ t ∧
      Ran p.processor o t (p.run cs fs rounds source scriptName o s).1.1
        (p.run cs fs rounds source scriptName o s).1.2.processor :=
  p.processor.runWithHook_ran cs rounds
    (ScriptSource.hook_confined cs fs { source, scriptName, tag := p.tag }) o s

/-- Whatever the collaborators answer, a run goes through its phases in order and stops at the first
call that fails, with that failure as its result. -/
theorem run_in_phases (rounds : Nat) (fs : File.System) (o : RunOptions) (s : Shared σ) :
    (∀ p : Processor, ∃ t, (p.run cs rounds o s).2.trace = s.trace ++ t ∧
      RunLaw o t (p.run cs rounds o s).1.1) ∧
    ∀ (p : ScriptProcessor) (source : String) (scriptName : Option String),
      ∃ t, (p.run cs fs rounds source scriptName o s).2.trace = s.trace ++ t ∧
        RunLaw o t (p.run cs fs rounds source scriptName o s).1.1 := by
  constructor
  · intro p
    obtain ⟨t, ht, hR⟩ := p.run_ran cs rounds o s
    exact ⟨t, ht, hR.law⟩
  · intro p source scriptName
    obtain ⟨t, ht, hR⟩ := p.run_ran cs fs rounds source scriptName o s
    exact ⟨t, ht, hR.law⟩

end Dispatch
