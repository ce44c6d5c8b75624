import Dispatch.Proofs.OneName
import Dispatch.Proofs.Scripts

namespace Dispatch

open Activity

theorem split_at_path {D : Type} {channels : List (Channel D)} (h : AnyPath channels) :
    ∃ (before : List D) (path : String) (after : List (Channel D)),
      channels = before.map .descriptor ++ .path path :: after := by
  induction channels with
  | nil =>
      obtain ⟨path, hp⟩ := h
      cases hp
  | cons c channels ih =>
      cases c with
      | path path => exact ⟨[], path, channels, rfl⟩
      | descriptor d =>
          obtain ⟨before, path, after, rfl⟩ := ih (anyPath_cons_descriptor.1 h)
          exact ⟨d :: before, path, after, rfl⟩

/-- What a run with these inputs comes to: the first path is named by its position. -/
def BarePath (inputs : List (Channel InputDescriptor)) (e : ProcessingError) : Prop :=
  ∃ (before : List InputDescriptor) (path : String) (after : List (Channel InputDescriptor)),
    inputs = before.map .descriptor ++ .path path :: after ∧
    e = .typeConstraint (.barePath (before.length + 1))

theorem Processor.start_of_path {σ : Type} (cs : Collaborators σ) (c : Configuration) (hook : Hook σ)
    {o : RunOptions} (ho : AnyPath o.inputs) (s : Shared σ) :
    ∃ e, BarePath o.inputs e ∧ start cs c hook o s = (.error (.failed e), s) := by
  obtain ⟨before, path, after, hsplit⟩ := split_at_path ho
  refine ⟨_, ⟨before, path, after, hsplit, rfl⟩, ?_⟩
  rw [start, hsplit, checkInputs_path, bind_error _ (ofExcept_error _ s _)]

/-- Why a script cannot be run: it is not found, or there is no interpreter for its ending. -/
inductive Program.Unrunnable (fs : File.System) (source : ScriptSource) : ValidationError → Prop
  | unnamed {e} (h : Program.scriptName fs source.source source.scriptName = .error e) :
      Unrunnable fs source e
  | unknown {script} (h : Program.scriptName fs source.source source.scriptName = .ok script)
      (hpy : File.Path.extension? script ≠ some ("py" : File.Raw))
      (hsh : File.Path.extension? script ≠ some ("sh" : File.Raw)) :
      Unrunnable fs source (.notAScript script)

theorem Program.Unrunnable.resolve {fs : File.System} {source : ScriptSource} {e : ValidationError}
    (h : Unrunnable fs source e) : Program.resolve fs source = .error e := by
  rw [Program.resolve, bind_eq_error_iff]
  cases h with
  | unnamed h => exact .inl h
  | unknown h hpy hsh =>
      refine .inr ⟨_, h, bind_eq_error_iff.2 (.inl ?_)⟩
      exact interpreter_of_other (mt extension?_py.2 hpy) (mt extension?_sh.2 hsh)

theorem ScriptProcessor.run_of_unrunnable {σ : Type} (cs : Collaborators σ) (fs : File.System)
    (rounds : Nat) (p : ScriptProcessor) {source : String} {scriptName : Option String}
    {o : RunOptions} {e : ValidationError} (ho : ¬ AnyPath o.inputs)
    (he : Program.Unrunnable fs { source, scriptName, tag := p.tag } e) (s : Shared σ) :
    ∃ w, p.run cs fs rounds source scriptName o s =
      ((.error (.failed (.validation e)), p), { s with world := w }) := by
  obtain ⟨w, hname⟩ := resolveJobName_chosen cs p.processor.configuration o.jobName s
  refine ⟨w, ?_⟩
  let hook := ScriptSource.hook cs fs { source, scriptName, tag := p.tag }
  have hstart : Processor.start cs p.processor.configuration hook o s =
      (.error (.failed (.validation e)), { s with world := w }) := by
    rw [Processor.start_eq_launch cs (not_anyPath_iff.1 ho), bind_ok _ hname, Staged.apply_hook, he.resolve,
      bind_assoc, bind_error _ (ofExcept_error _ _ e)]
  exact run_of_unstarted hstart

def Inconsistent (inputs : List (Channel InputDescriptor)) : Prop :=
  ∃ d, .descriptor d ∈ inputs ∧ ¬ d.IsConsistent

section Inconsistency

variable {c : Configuration} {o : RunOptions} {a : Adjustment} {name : String}
  {known : Option String} {t : List Event} {q : Request} {reply : (Call.create q).Reply}

theorem fragment_ok_iff {d : InputDescriptor} : (∃ f, d.fragment = .ok f) ↔ d.IsConsistent := by
  unfold InputDescriptor.fragment
  by_cases hd : d.IsConsistent <;> simp [hd]

theorem mapM_fragment_consistent {ds : List InputDescriptor} {fs : List InputFragment}
    (h : ds.mapM InputDescriptor.fragment = .ok fs) : ∀ d ∈ ds, d.IsConsistent := by
  induction ds generalizing fs with
  | nil => simp
  | cons d ds ih =>
      rw [List.mapM_cons] at h
      cases hd : d.fragment with
      | error e =>
          rw [hd] at h
          cases h
      | ok f =>
          cases hds : ds.mapM InputDescriptor.fragment with
          | error e =>
              rw [hd, hds] at h
              cases h
          | ok fs' => exact List.forall_mem_cons.2 ⟨fragment_ok_iff.1 ⟨f, hd⟩, ih hds⟩

theorem wholes_consistent {m : Nat} {xs : List Sourced} (h : ∀ d ∈ wholes m xs, d.IsConsistent) :
    ∀ d ∈ xs.map Sourced.input, d.IsConsistent := by
  induction xs generalizing m with
  | nil => simp
  | cons x xs ih =>
      obtain ⟨hx, hxs⟩ := List.forall_mem_cons.1 h
      exact List.forall_mem_cons.2 ⟨hx, ih hxs⟩

theorem Settles.consistent {m : Nat} {ds inputs : List InputDescriptor}
    (h : Settles name known m ds t (.ok inputs)) (hi : ∀ d ∈ inputs, d.IsConsistent) :
    ∀ d ∈ ds, d.IsConsistent := by
  cases h with
  | unasked xs hxs hr => exact hxs ▸ wholes_consistent hi
  | uploaded xs hxs hl hb => exact hxs ▸ wholes_consistent hi

theorem Creates.consistent (h : Creates c o a name known q t) :
    ∃ v plan, v <+: t ∧ Adjusts a ⟨name, o.inputs, o.outputs, none⟩ known v (.ok plan) ∧
      ¬ Inconsistent plan.inputs := by
  cases h with
  | @built v plan u job ha hc hb =>
      refine ⟨v, plan, List.prefix_append _ _, ha, ?_⟩
      rintro ⟨d, hd, hbad⟩
      cases hc with
      | whole hds hi ho =>
          have hinputs := mapM_fragment_consistent (Job.createdBy_build hb none).inputs
          rw [hds] at hd
          obtain ⟨d', hd', hsame⟩ := List.mem_map.1 hd
          cases hsame
          exact hbad (hi.consistent hinputs d hd')

theorem Runs.consistent {p p' : Processor} {r : Except Halt Job} (h : Runs p o a name known t r p')
    (hq : .called (.create q) reply ∈ t) :
    ∃ v plan, v <+: t ∧ Adjusts a ⟨name, o.inputs, o.outputs, none⟩ known v (.ok plan) ∧
      ¬ Inconsistent plan.inputs := by
  obtain ⟨earlier, later, rfl, hC⟩ := h.creation hq
  obtain ⟨v, plan, hv, ha, hplan⟩ := hC.consistent
  exact ⟨v, plan, hv.trans (List.prefix_append _ _), ha, hplan⟩

end Inconsistency

section Requests

variable {c : Configuration} {o : RunOptions} {a : Adjustment} {name : String}
  {known : Option String} {t : List Event} {q : Request} {reply : (Call.create q).Reply}

def Unasked (t : List Event) : Prop := ∀ (q : Request) (reply), .called (.create q) reply ∉ t

def Halt.IsFault (h : Halt) : Prop := ∃ e, h = .failed e ∧ e.IsFault

theorem Halt.not_isFault_remote (e : ClientError) : ¬ (Halt.failed (.remote e)).IsFault := by
  rintro ⟨_, ⟨rfl⟩, h⟩
  exact h

theorem Halt.CutsWait.not_isFault {h : Halt} (hc : h.CutsWait) : ¬ h.IsFault := by
  rcases hc with rfl | ⟨e, rfl⟩
  · rintro ⟨_, h, -⟩
    cases h
  · exact Halt.not_isFault_remote e

theorem Starts.asked {job : Job} (h : Starts c o a name known t (.ok job)) : ¬ Unasked t := by
  intro hu
  cases h with
  | launched ho ha hl =>
      cases hl with
      | submitted hc hs =>
          cases hs with
          | @created q hb => exact hu q (.ok ()) (by simp)

theorem Starts.not_isFault {h : Halt} (hS : Starts c o a name known t (.error h))
    (hq : .called (.create q) reply ∈ t) : ¬ h.IsFault := by
  obtain ⟨-, -, -, x, hx⟩ := hS.creation hq
  cases x with
  | ok job => cases hx
  | error e =>
      cases hx
      exact Halt.not_isFault_remote e

theorem Job.settle_not_isFault {job : Job} {streaming : Bool} {r : Except Halt JobDescription}
    {h : Halt} (hF : Follows job.name streaming t r) (hr : (job.settle r).1 = .error h) :
    ¬ h.IsFault := by
  cases r with
  | error e =>
      cases hr
      exact hF.cuts.not_isFault
  | ok d =>
      change job.outcome d = .error h at hr
      rw [outcome] at hr
      split at hr
      · cases hr
        rintro ⟨_, ⟨rfl⟩, h⟩
        exact h
      · cases hr

variable {p p' : Processor}

theorem Runs.unasked {r : Except Halt Job} (h : Runs p o a name known t r p') (hu : Unasked t) :
    p' = p ∧ ∃ e, r = .error e := by
  cases h with
  | unstarted hs => exact ⟨rfl, _, rfl⟩
  | left hs hw => exact absurd hu hs.asked
  | followed hs hw hf =>
      refine absurd ?_ hs.asked
      exact fun q reply hq => hu q reply (List.mem_append_left _ hq)

theorem Runs.not_isFault {h : Halt} (hR : Runs p o a name known t (.error h) p')
    (hq : .called (.create q) reply ∈ t) : ¬ h.IsFault := by
  generalize hr : Except.error h = r at hR
  cases hR with
  | unstarted hs =>
      cases hr
      exact hs.not_isFault hq
  | left hs hw => cases hr
  | followed hs hw hf => exact Job.settle_not_isFault hf (Activity.map_eq_error hr.symm)

/-- What becomes of a run after the checks that come first, if `bad` says that its channels are
inconsistent. -/
structure FaultsInTime (bad : Prop) (p : Processor) (t : List Event) (r : Except Halt Job)
    (p' : Processor) : Prop where
  withheld : bad → Unasked t ∧ p' = p ∧ ∃ h, r = .error h
  settled : ¬ Unasked t → ∀ h, r = .error h → ¬ h.IsFault

theorem Runs.faultsInTime {bad : Prop} {r : Except Halt Job} (h : Runs p o a name known t r p')
    (hbad : bad → ∀ v plan, v <+: t → Adjusts a ⟨name, o.inputs, o.outputs, none⟩ known v (.ok plan) →
      Inconsistent plan.inputs) : FaultsInTime bad p t r p' where
  withheld hb := by
    have hu : Unasked t := by
      intro q reply hq
      obtain ⟨v, plan, hv, ha, hplan⟩ := h.consistent hq
      exact hplan (hbad hb v plan hv ha)
    exact ⟨hu, h.unasked hu⟩
  settled hu := by
    rintro e rfl
    simp only [Unasked, not_forall, not_not] at hu
    obtain ⟨q, reply, hq⟩ := hu
    exact h.not_isFault hq

end Requests

section Order

variable {σ : Type} (cs : Collaborators σ)

/-- Whatever the collaborators answer, it is settled which fault comes first and what was done before
it. -/
theorem faults_come_in_order (rounds : Nat) (o : RunOptions) (s : Shared σ) :
    (∀ (p : Processor) (hook : Hook σ), AnyPath o.inputs → ∃ e, BarePath o.inputs e ∧
      p.runWithHook cs rounds hook o s = ((.error (.failed e), p), s)) ∧
    (∀ p : Processor, ∃ t, (p.run cs rounds o s).2.trace = s.trace ++ t ∧
      FaultsInTime (Inconsistent o.inputs) p t (p.run cs rounds o s).1.1
        (p.run cs rounds o s).1.2) ∧
    (∀ (p : Processor) (a : Adjustment), ∃ n t,
      (p.runWithHook cs rounds (a.hook cs) o s).2.trace = s.trace ++ t ∧
      FaultsInTime (∀ v plan, v <+: t →
          Adjusts a ⟨n, o.inputs, o.outputs, none⟩ s.bucket v (.ok plan) → Inconsistent plan.inputs)
        p t (p.runWithHook cs rounds (a.hook cs) o s).1.1
        (p.runWithHook cs rounds (a.hook cs) o s).1.2) ∧
    ∀ (fs : File.System) (p : ScriptProcessor) (source : String) (scriptName : Option String),
      (AnyPath o.inputs → ∃ e, BarePath o.inputs e ∧
        p.run cs fs rounds source scriptName o s = ((.error (.failed e), p), s)) ∧
      (¬ AnyPath o.inputs → ∀ e, Program.Unrunnable fs { source, scriptName, tag := p.tag } e →
        ∃ w, p.run cs fs rounds source scriptName o s =
          ((.error (.failed (.validation e)), p), { s with world := w })) ∧
      ∃ t, (p.run cs fs rounds source scriptName o s).2.trace = s.trace ++ t ∧
        FaultsInTime (Inconsistent o.inputs) p.processor t
          (p.run cs fs rounds source scriptName o s).1.1
          (p.run cs fs rounds source scriptName o s).1.2.processor := by
  refine ⟨?_, ?_, ?_, ?_⟩
  · intro p hook ho
    obtain ⟨e, he, hstart⟩ := Processor.start_of_path cs p.configuration hook ho s
    exact ⟨e, he, Processor.runWithHook_of_error cs hstart⟩
  · intro p
    obtain ⟨w, t, he, hR⟩ := p.run_runs cs rounds o s
    refine ⟨t, he.trace, hR.faultsInTime ?_⟩
    rintro hbad v plan - ⟨⟩
    exact hbad
  · intro p a
    obtain ⟨w, t, he, hR⟩ := p.runWithHook_runs cs rounds o a s
    exact ⟨_, t, he.trace, hR.faultsInTime id⟩
  · intro fs p source scriptName
    refine ⟨?_, ?_, ?_⟩
    · intro ho
      obtain ⟨e, he, hstart⟩ := Processor.start_of_path cs p.processor.configuration _ ho s
      exact ⟨e, he, ScriptProcessor.run_of_unstarted hstart⟩
    · intro ho e he
      exact p.run_of_unrunnable cs fs rounds ho he s
    · obtain ⟨w, t, p', he, hp, hR⟩ := p.run_runs cs fs rounds source scriptName o s
      rw [hp]
      refine ⟨t, he.trace, hR.faultsInTime ?_⟩
      rintro ⟨d, hd, hbad⟩ v plan - hA
      obtain ⟨address, program, rfl⟩ := hA.mounted
      exact ⟨d, List.mem_append_left _ hd, hbad⟩

end Order

end Dispatch
