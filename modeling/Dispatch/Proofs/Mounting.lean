import Dispatch.Proofs.Names

namespace Dispatch

open Activity Storage ScriptSource

variable {σ : Type} (cs : Collaborators σ)

/-- The name a run is given, or else one made from the time at which it starts. -/
def chosenName (c : Configuration) (given : Option String) (w : σ) : String :=
  given.getD (Naming.generate (Naming.base c) (cs.clock w).1)

theorem resolveJobName_chosen (c : Configuration) (given : Option String) (s : Shared σ) :
    ∃ w, resolveJobName cs c given s = (.ok (chosenName cs c given s.world), { s with world := w }) := by
  cases given with
  | some name => exact ⟨s.world, rfl⟩
  | none => exact ⟨_, rfl⟩

theorem resolveJobName_apply (c : Configuration) (name : Option String) (s : Shared σ) :
    ∃ resolved w, resolveJobName cs c name s = (.ok resolved, { s with world := w }) :=
  ⟨_, resolveJobName_chosen cs c name s⟩

namespace Processor

def launch (c : Configuration) (plan : Plan) : Activity σ Job := do
  let inputs ← normalizeInputs cs plan.jobName plan.inputs
  let outputs ← normalizeOutputs cs plan.jobName plan.outputs
  submit cs c { name := plan.jobName, inputs, outputs, entrypoint := plan.entrypoint }

variable {c : Configuration} {o : RunOptions} {fs : File.System} {source : ScriptSource}
  {program : Program}

theorem start_eq_launch {hook : Hook σ} (ho : ∀ c ∈ o.inputs, c.isDescriptor = true) :
    start cs c hook o = (do
      let jobName ← resolveJobName cs c o.jobName
      let plan ← Staged.apply hook { jobName, inputs := o.inputs, outputs := o.outputs }
      launch cs c plan) := by
  rw [start, checkInputs_ok_iff.2 ho]
  rfl

theorem launch_entrypoint (plan : Plan) (words : List String) :
    launch cs c { plan with entrypoint := some words } =
      launch cs (c.withEntrypoint words) { plan with entrypoint := none } := rfl

theorem mounted_isDescriptor (ho : ∀ c ∈ o.inputs, c.isDescriptor = true) (address : String) :
    ∀ c ∈ (o.withInput (.descriptor (channel address))).inputs, c.isDescriptor = true :=
  List.forall_mem_append.2 ⟨ho, List.forall_mem_singleton.2 rfl⟩

/-- Once a script is shipped, its run is a run without a hook. -/
theorem start_hook_eq (ho : ∀ c ∈ o.inputs, c.isDescriptor = true)
    (hp : Program.resolve fs source = .ok program) :
    start cs c (source.hook cs fs) o = (do
      let jobName ← resolveJobName cs c o.jobName
      let address ← source.ship cs jobName
      start cs (c.withEntrypoint program.entrypoint) .none
        ((o.withJobName jobName).withInput (.descriptor (channel address)))) := by
  have hprogram : (ofExcept .validation (.ok program) : Activity σ Program) = pure program := rfl
  rw [start_eq_launch cs ho]
  simp only [Staged.apply_hook, hp, hprogram, pure_bind, bind_assoc]
  congr 1
  funext jobName
  congr 1
  funext address
  rw [start_eq_launch cs (mounted_isDescriptor (o := o.withJobName jobName) ho address)]
  -- both sides launch one plan, and only where the entrypoint stands differs
  let mounted := o.inputs ++ [Channel.descriptor (channel address)]
  exact launch_entrypoint cs { jobName, inputs := mounted, outputs := o.outputs } program.entrypoint

theorem start_named {hook : Hook σ} (ho : ∀ c ∈ o.inputs, c.isDescriptor = true) :
    start cs c hook o = (do
      let jobName ← resolveJobName cs c o.jobName
      start cs c hook (o.withJobName jobName)) := by
  rw [start_eq_launch cs ho]
  congr 1
  funext jobName
  exact (start_eq_launch (o := o.withJobName jobName) cs ho).symm

theorem start_hook_remote (ho : ∀ c ∈ o.inputs, c.isDescriptor = true)
    (hp : Program.resolve fs source = .ok program) (hr : isRemote source.source = true) :
    start cs c (source.hook cs fs) o =
      start cs (c.withEntrypoint program.entrypoint) .none
        (o.withInput (.descriptor (channel source.source))) := by
  rw [start_hook_eq cs ho hp, start_named cs (mounted_isDescriptor ho source.source)]
  simp only [ship_remote cs _ hr, pure_bind]
  rfl

theorem runWithHook_of_start {p q : Processor} {hook hook' : Hook σ} {o' : RunOptions}
    {rounds : Nat} {s s' : Shared σ}
    (h : start cs p.configuration hook o s = start cs q.configuration hook' o' s')
    (hjobs : q.jobs = p.jobs) (hw : o.wait = o'.wait) (hl : o.logs = o'.logs) :
    p.runWithHook cs rounds hook o s =
      let x := q.runWithHook cs rounds hook' o' s'
      ((x.1.1, { p with jobs := x.1.2.jobs }), x.2) := by
  have hq : q = { p with configuration := q.configuration } := by rw [← hjobs]
  rcases hs : start cs q.configuration hook' o' s' with ⟨e | job, t⟩
  · rw [hs] at h
    rw [runWithHook_of_error cs h, runWithHook_of_error cs hs, hq]
  · rw [hs] at h
    cases hwait : o'.wait with
    | false =>
        rw [hwait] at hw
        rw [runWithHook_of_left cs h hw, runWithHook_of_left cs hs hwait, hq]
    | true =>
        rw [hwait] at hw
        rcases hx : job.wait cs o'.logs rounds t with ⟨⟨r, job'⟩, u⟩
        have hx' := hx
        rw [← hl] at hx'
        rw [runWithHook_of_waited cs h hw hx', runWithHook_of_waited cs hs hwait hx, hq]

end Processor

namespace ScriptProcessor

variable (p : ScriptProcessor)

def plain (program : Program) : Processor :=
  { p.processor with configuration := p.processor.configuration.withEntrypoint program.entrypoint }

/-- A run of another processor as one of this: its jobs are taken over, and nothing else. -/
def adopt (x : (Except Halt Job × Processor) × Shared σ) :
    (Except Halt Job × ScriptProcessor) × Shared σ :=
  ((x.1.1, { p with processor := { p.processor with jobs := x.1.2.jobs } }), x.2)

variable {p} {cs} {fs : File.System} {rounds : Nat} {source : String} {scriptName : Option String}
  {o o' : RunOptions} {program : Program} {s s' : Shared σ}

theorem run_of_start
    (h : Processor.start cs p.processor.configuration
        (ScriptSource.hook cs fs { source, scriptName, tag := p.tag }) o s =
      Processor.start cs (p.plain program).configuration .none o' s')
    (hw : o.wait = o'.wait) (hl : o.logs = o'.logs) :
    p.run cs fs rounds source scriptName o s = p.adopt ((p.plain program).run cs rounds o' s') := by
  have hrun : p.processor.runWithHook cs rounds _ o s = _ :=
    Processor.runWithHook_of_start cs h rfl hw hl
  simp only [run, bind, StateT.bind, hrun]
  rfl

theorem run_of_unstarted {e : Halt}
    (h : Processor.start cs p.processor.configuration
        (ScriptSource.hook cs fs { source, scriptName, tag := p.tag }) o s = (.error e, s')) :
    p.run cs fs rounds source scriptName o s = ((.error e, p), s') := by
  simp only [run, bind, StateT.bind, Processor.runWithHook_of_error cs h]
  rfl

theorem run_shipped (cs : Collaborators σ) (rounds : Nat) (p : ScriptProcessor)
    (ho : ∀ c ∈ o.inputs, c.isDescriptor = true)
    (hp : Program.resolve fs { source, scriptName, tag := p.tag } = .ok program)
    (hr : isRemote source = false) (s : Shared σ) : ∃ name w t s' r,
      resolveJobName cs p.processor.configuration o.jobName s = (.ok name, { s with world := w }) ∧
      Effect cs { s with world := w } t s' ∧
      Ships name { source, scriptName, tag := p.tag } s.bucket t r ∧
      (∀ h, r = .error h → p.run cs fs rounds source scriptName o s = ((.error h, p), s')) ∧
      ∀ address, r = .ok address → (∃ b, s'.bucket = some b) ∧
        p.run cs fs rounds source scriptName o s =
          p.adopt ((p.plain program).run cs rounds
            ((o.withJobName name).withInput (.descriptor (channel address))) s') := by
  have hstart := Processor.start_hook_eq cs (c := p.processor.configuration) ho hp
  obtain ⟨name, w, hname⟩ := resolveJobName_apply cs p.processor.configuration o.jobName s
  let source' : ScriptSource := { source, scriptName, tag := p.tag }
  obtain ⟨t, ht, hS⟩ := source'.ship_ships cs name { s with world := w }
  rcases hs : source'.ship cs name { s with world := w } with ⟨h | address, s'⟩
  · rw [hs] at ht hS
    refine ⟨name, w, t, s', .error h, hname, ht, hS, ?_, nofun⟩
    rintro _ ⟨rfl⟩
    apply run_of_unstarted
    rw [hstart, bind_ok _ hname, bind_error _ hs]
  · rw [hs] at ht hS
    refine ⟨name, w, t, s', .ok address, hname, ht, hS, nofun, ?_⟩
    rintro _ ⟨rfl⟩
    refine ⟨?_, run_of_start ?_ rfl rfl⟩
    · obtain ⟨b, hb⟩ := hS.settles hr
      exact ⟨b, ht.bucket.trans hb⟩
    · rw [hstart, bind_ok _ hname, bind_ok _ hs]
      rfl

/-- A script runs as its own program does in a processor without a hook. The source is one more input
if it is remote; if not, it is shipped first, and the run goes on with the address it got. -/
theorem run_refines (cs : Collaborators σ) (rounds : Nat) (p : ScriptProcessor)
    (ho : ∀ c ∈ o.inputs, c.isDescriptor = true)
    (hp : Program.resolve fs { source, scriptName, tag := p.tag } = .ok program) (s : Shared σ) :
    (isRemote source = true →
      p.run cs fs rounds source scriptName o s =
        p.adopt ((p.plain program).run cs rounds (o.withInput (.descriptor (channel source))) s)) ∧
    (isRemote source = false → ∃ name w t s' r,
      resolveJobName cs p.processor.configuration o.jobName s = (.ok name, { s with world := w }) ∧
      Effect cs { s with world := w } t s' ∧
      Ships name { source, scriptName, tag := p.tag } s.bucket t r ∧
      (∀ h, r = .error h → p.run cs fs rounds source scriptName o s = ((.error h, p), s')) ∧
      ∀ address, r = .ok address → (∃ b, s'.bucket = some b) ∧
        p.run cs fs rounds source scriptName o s =
          p.adopt ((p.plain program).run cs rounds
            ((o.withJobName name).withInput (.descriptor (channel address))) s')) := by
  refine ⟨fun hr => run_of_start ?_ rfl rfl, fun hr => run_shipped cs rounds p ho hp hr s⟩
  rw [Processor.start_hook_remote cs ho hp hr]
  rfl

end ScriptProcessor

section Samples

def sampleProcessor : ScriptProcessor :=
  { processor :=
      { configuration :=
          { role := "role", image := "image", instanceType := "machine", instanceCount := 1
            entrypoint := some ["configured"] } } }

def mixedOptions : RunOptions := { inputs := mixedInputs, jobName := some "job" }

def mountedScript (address : String) : RunOptions :=
  mixedOptions.withInput (.descriptor (channel address))

def sampleProgram : Program := { script := "run.py", entrypoint := ["python3", "/code/source/run.py"] }

theorem remoteScript_resolve : Program.resolve scriptFiles
    { source := "s3://code/run.py", tag := defaultTag } = .ok sampleProgram := by
  decide +kernel

theorem sample_runs_refine :
    let p := sampleProcessor
    let collaborators := Script.collaborators
    p.run collaborators scriptFiles 2 "s3://code/run.py" none mixedOptions { world := {} } =
        p.adopt ((p.plain sampleProgram).run collaborators 2 (mountedScript "s3://code/run.py")
          { world := {} }) ∧
      ∃ s', s'.trace = [.called .defaultBucket (.ok "bucket"),
          .called (.upload "run.py" "s3://bucket/job/source") (.ok "s3://bucket/job/source")] ∧
        p.run collaborators scriptFiles 2 "run.py" none mixedOptions { world := {} } =
          p.adopt ((p.plain sampleProgram).run collaborators 2 (mountedScript "s3://bucket/job/source")
            s') := by
  intro p collaborators
  have ho : ∀ c ∈ mixedOptions.inputs, c.isDescriptor = true := by decide
  constructor
  · exact (p.run_refines collaborators 2 ho remoteScript_resolve { world := {} }).1 (by decide +kernel)
  · obtain ⟨name, w, t, s', r, hname, ht, hS, -, hok⟩ :=
      (p.run_refines collaborators 2 ho localScript_resolve { world := {} }).2 (by decide +kernel)
    cases hname
    cases hS with
    | remote hr => exact absurd hr (by decide +kernel)
    | unlocated hr hb =>
        cases hb
        cases ht.answers.1
    | refused hr hb e =>
        cases hb
        cases ht.answers.2.1
    | uploaded hr hb address =>
        cases hb
        cases ht.answers.1
        cases ht.answers.2.1
        exact ⟨s', ht.trace, (hok _ rfl).2⟩

end Samples

end Dispatch
