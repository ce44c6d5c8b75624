import Dispatch.Proofs.Phases
import Mathlib.Data.List.Forall2

namespace Dispatch

open Activity

variable {σ : Type} (cs : Collaborators σ)

def Event.creation? : Event → Option Request
  | .called (.create q) (.ok _) => some q
  | _ => none

def created (t : List Event) : List Request := t.filterMap Event.creation?

structure Job.CreatedBy (job : Job) (q : Request) : Prop where
  name : job.name = q.jobName
  inputs : job.inputs.mapM InputDescriptor.fragment = .ok q.inputs
  outputs : job.outputs.map OutputDescriptor.fragment = q.outputs

def Grown (p : Processor) (t : List Event) (p' : Processor) : Prop :=
  ∃ new, p' = { p with jobs := p.jobs ++ new } ∧ List.Forall₂ Job.CreatedBy new (created t) ∧
    ∀ job ∈ new, ∀ x ∈ job.terminalStatus, x.isTerminal

inductive Recorded (p : Processor) (t : List Event) : Except Halt Job → Processor → Prop
  | nothing {h : Halt} (hn : created t = []) (hc : h.CutsStart) : Recorded p t (.error h) p
  | one {q : Request} {job : Job} {r : Except Halt Job} (hn : created t = [q])
      (hq : job.CreatedBy q) (hL : Left job r) : Recorded p t r { p with jobs := p.jobs ++ [job] }

@[simp] theorem created_append (t u : List Event) : created (t ++ u) = created t ++ created u :=
  List.filterMap_append

theorem created_eq_nil {t : List Event} (h : ∀ e ∈ t, e.creation? = none) : created t = [] :=
  List.filterMap_eq_nil_iff.2 h

theorem Event.IsPreparation.creation_none {e : Event} (h : e.IsPreparation) :
    e.creation? = none := by
  cases e with
  | called c reply => cases c <;> first | rfl | cases h
  | logged job e => rfl

theorem Event.IsObservation.creation_none {streaming : Bool} {e : Event}
    (h : e.IsObservation streaming) : e.creation? = none := by
  cases e with
  | called c reply => cases c <;> first | rfl | rcases h with h | ⟨h, -⟩ <;> cases h
  | logged job e => rfl

theorem Job.createdBy_build {c : Configuration} {n : NormalizedJob} {q : Request}
    (h : Request.build c n = .ok q) (status : Option JobStatus) :
    Job.CreatedBy ⟨n.name, n.inputs, n.outputs, status⟩ q := by
  cases hi : n.inputs.mapM InputDescriptor.fragment with
  | error e => rw [Request.build, hi] at h; cases h
  | ok inputs => rw [Request.build, hi] at h; cases h; exact ⟨rfl, hi, rfl⟩

theorem Ran.recorded {p p' : Processor} {o : RunOptions} {t : List Event} {r : Except Halt Job}
    (h : Ran p o t r p') : Recorded p t r p' := by
  cases h with
  | unstarted hs =>
      cases hs with
      | failed hP hE hc => exact .nothing (created_eq_nil fun e he => (hP e he).creation_none) hc
      | refused hP hq hb =>
          refine .nothing ?_ ⟨_, rfl, .inr ⟨_, rfl⟩⟩
          rw [created_append, created_eq_nil fun e he => (hP e he).creation_none]
          rfl
  | @kept t u job r status hs hw hO hE hL =>
      cases hs with
      | @created t q n hP hq hb =>
          refine .one (q := q) ?_ (Job.createdBy_build hb status) hL
          rw [created_append, created_append, created_eq_nil fun e he => (hP e he).creation_none,
            created_eq_nil fun e he => (hO e he).creation_none]
          rfl

namespace Grown

variable {p p' p'' : Processor} {t u : List Event} {r : Except Halt Job}

theorem refl (ht : created t = []) : Grown p t p :=
  ⟨[], by rw [List.append_nil], ht ▸ .nil, by simp⟩

theorem trans (h : Grown p t p') (k : Grown p' u p'') : Grown p (t ++ u) p'' := by
  obtain ⟨new, rfl, hnew, hx⟩ := h
  obtain ⟨new', rfl, hnew', hx'⟩ := k
  refine ⟨new ++ new', by rw [List.append_assoc], ?_, ?_⟩
  · rw [created_append]
    exact List.rel_append hnew hnew'
  · intro job hjob
    exact (List.mem_append.1 hjob).elim (hx job) (hx' job)

theorem of_recorded (h : Recorded p t r p') : Grown p t p' := by
  cases h with
  | nothing hn hc => exact refl hn
  | one hn hq hL => exact ⟨[_], rfl, hn ▸ .cons hq .nil, by simpa using hL.terminal⟩

theorem jobs_prefix (h : Grown p t p') : p.jobs <+: p'.jobs := by
  obtain ⟨new, rfl, -⟩ := h
  exact List.prefix_append _ _

end Grown

/-- The history of `p` is the record of the creations in `t`. -/
structure Processor.Remembers (p : Processor) (t : List Event) : Prop where
  names : p.jobs.map Job.name = (created t).map Request.jobName
  latest : p.latestJob.map Job.name = (created t).getLast?.map Request.jobName
  submissions : List.Forall₂ Job.CreatedBy p.jobs (created t)
  statuses : ∀ job ∈ p.jobs, job.terminalStatus = none ∨ job.terminalStatus = some .completed ∨
    job.terminalStatus = some .failed ∨ job.terminalStatus = some .stopped

theorem Grown.remembers {p : Processor} {c : Configuration} {t : List Event}
    (h : Grown { configuration := c } t p) : p.Remembers t := by
  obtain ⟨jobs, rfl, hjobs, hx⟩ := h
  have hnames : jobs.map Job.name = (created t).map Request.jobName := by
    rw [← List.forall₂_eq_eq_eq, List.forall₂_map_left_iff, List.forall₂_map_right_iff]
    exact hjobs.imp fun job q hq => hq.name
  refine ⟨hnames, ?_, hjobs, ?_⟩
  · have hlast := congrArg List.getLast? hnames
    rwa [List.getLast?_map, List.getLast?_map] at hlast
  · intro job hjob
    have hx := hx job hjob
    cases hs : job.terminalStatus with
    | none => exact .inl rfl
    | some x =>
        rw [hs] at hx
        have hterminal := hx x rfl
        cases x with
        | completed => exact .inr (.inl rfl)
        | failed => exact .inr (.inr (.inl rfl))
        | stopped => exact .inr (.inr (.inr rfl))
        | inProgress => cases hterminal
        | stopping => cases hterminal

structure Runner (σ : Type) where
  State : Type
  Given : Type
  run : Given → State → StateM (Shared σ) (Except Halt Job × State)
  processor : State → Processor

def Processor.runner (rounds : Nat) : Runner σ where
  State := Processor
  Given := RunOptions
  run o p := p.run cs rounds o
  processor p := p

structure ScriptRun where
  files : File.System
  source : String
  scriptName : Option String := none
  options : RunOptions := {}

def ScriptProcessor.runner (rounds : Nat) : Runner σ where
  State := ScriptProcessor
  Given := ScriptRun
  run g p := p.run cs g.files rounds g.source g.scriptName g.options
  processor := ScriptProcessor.processor

/-- What can be asked of a runner. Jobs are described and stopped by their position in the history.
-/
inductive Operation (ρ : Type)
  | run (given : ρ)
  | describe (position : Nat)
  | stop (position : Nat)
  | attach (name : String)

namespace Runner

variable (R : Runner σ)

def through {α : Type} (p : R.State) (i : Nat) (x : Job → Activity σ α) : StateM (Shared σ) Unit :=
  match (R.processor p).jobs[i]? with
  | some job => discard (x job).run
  | none => pure ()

def perform (p : R.State) : Operation R.Given → StateM (Shared σ) R.State
  | .run given => do return (← R.run given p).2
  | .describe i => do
      R.through p i (Job.describe cs)
      return p
  | .stop i => do
      R.through p i (Job.stop cs)
      return p
  | .attach name => do
      let _ := Job.attach name
      return p

def performAll : List (Operation R.Given) → R.State → StateM (Shared σ) R.State
  | [], p => return p
  | op :: ops, p => do performAll ops (← R.perform cs p op)

def Records : Prop :=
  ∀ given p s, ∃ t, (R.run given p s).2.trace = s.trace ++ t ∧
    Recorded (R.processor p) t (R.run given p s).1.1 (R.processor (R.run given p s).1.2)

/-- However a runner that starts from `p₀` is used, its history is the record of the creations there
were; what is done next adds to that history at most, and a run does so as it should. -/
def KeepsHistory (p₀ : R.State) (s₀ : Shared σ) : Prop :=
  ∀ ops p s, R.performAll cs ops p₀ s₀ = (p, s) →
    (∃ t, s.trace = s₀.trace ++ t ∧ (R.processor p).Remembers t) ∧
    (∀ more, (R.processor p).jobs <+: (R.processor (R.performAll cs more p s).1).jobs) ∧
    ∀ given, ∃ t, (R.run given p s).2.trace = s.trace ++ t ∧
      Recorded (R.processor p) t (R.run given p s).1.1 (R.processor (R.run given p s).1.2)

theorem through_adds {α : Type} {x : Job → Activity σ α}
    (hx : ∀ job, Confined (fun e => e.creation? = none) (x job))
    (p : R.State) (i : Nat) (s : Shared σ) :
    ∃ t, (R.through p i x s).2.trace = s.trace ++ t ∧ created t = [] := by
  unfold through
  cases (R.processor p).jobs[i]? with
  | none => exact ⟨[], (List.append_nil _).symm, rfl⟩
  | some job =>
      obtain ⟨t, ht, hP, -⟩ := hx job s
      exact ⟨t, ht, created_eq_nil hP⟩

variable {R}

theorem perform_grown (hR : R.Records) (op : Operation R.Given) (p : R.State) (s : Shared σ) :
    ∃ t, (R.perform cs p op s).2.trace = s.trace ++ t ∧
      Grown (R.processor p) t (R.processor (R.perform cs p op s).1) := by
  cases op with
  | run given =>
      obtain ⟨t, ht, hrec⟩ := hR given p s
      exact ⟨t, ht, .of_recorded hrec⟩
  | describe i =>
      have hx (job : Job) : Confined (fun e => e.creation? = none) (job.describe cs) :=
        .perform cs fun _ => rfl
      obtain ⟨t, ht, hn⟩ := R.through_adds hx p i s
      exact ⟨t, ht, .refl hn⟩
  | stop i =>
      have hx (job : Job) : Confined (fun e => e.creation? = none) (job.stop cs) :=
        .perform cs fun _ => rfl
      obtain ⟨t, ht, hn⟩ := R.through_adds hx p i s
      exact ⟨t, ht, .refl hn⟩
  | attach name => exact ⟨[], (List.append_nil _).symm, .refl rfl⟩

theorem performAll_grown (hR : R.Records) (ops : List (Operation R.Given)) (p : R.State)
    (s : Shared σ) :
    ∃ t, (R.performAll cs ops p s).2.trace = s.trace ++ t ∧
      Grown (R.processor p) t (R.processor (R.performAll cs ops p s).1) := by
  induction ops generalizing p s with
  | nil => exact ⟨[], (List.append_nil _).symm, .refl rfl⟩
  | cons op ops ih =>
      obtain ⟨t, ht, hG⟩ := perform_grown cs hR op p s
      obtain ⟨u, hu, hG'⟩ := ih (R.perform cs p op s).1 (R.perform cs p op s).2
      refine ⟨t ++ u, ?_, hG.trans hG'⟩
      rw [← List.append_assoc, ← ht]
      exact hu

theorem Records.keepsHistory (hR : R.Records) {p₀ : R.State} {c : Configuration}
    (h₀ : R.processor p₀ = { configuration := c }) (s₀ : Shared σ) : R.KeepsHistory cs p₀ s₀ := by
  intro ops p s hps
  refine ⟨?_, ?_, fun given => hR given p s⟩
  · obtain ⟨t, ht, hG⟩ := performAll_grown cs hR ops p₀ s₀
    rw [hps] at ht hG
    rw [h₀] at hG
    exact ⟨t, ht, hG.remembers⟩
  · intro more
    obtain ⟨t, -, hG⟩ := performAll_grown cs hR more p s
    exact hG.jobs_prefix

end Runner

theorem Processor.runner_records (rounds : Nat) : (Processor.runner cs rounds).Records := by
  intro o p s
  obtain ⟨t, ht, hR⟩ := p.run_ran cs rounds o s
  exact ⟨t, ht, hR.recorded⟩

theorem ScriptProcessor.runner_records (rounds : Nat) :
    (ScriptProcessor.runner cs rounds).Records := by
  intro g p s
  obtain ⟨t, ht, hR⟩ := p.run_ran cs g.files rounds g.source g.scriptName g.options s
  exact ⟨t, ht, hR.recorded⟩

/-- However processors are used, and whatever the collaborators answer, their histories are the
record of the jobs that were created through them. -/
theorem history_records_creations (rounds : Nat) (c : Configuration) (tag : String)
    (s₀ : Shared σ) :
    (Processor.runner cs rounds).KeepsHistory cs ({ configuration := c } : Processor) s₀ ∧
      (ScriptProcessor.runner cs rounds).KeepsHistory cs
        ({ processor := { configuration := c }, tag } : ScriptProcessor) s₀ :=
  ⟨(Processor.runner_records cs rounds).keepsHistory cs rfl s₀,
    (ScriptProcessor.runner_records cs rounds).keepsHistory cs rfl s₀⟩

end Dispatch
