import Dispatch.Channel.Normalize
import Dispatch.Job.Handle
import Dispatch.Plan
import Dispatch.Program

namespace Dispatch

structure RunOptions where
  inputs : List (Channel InputDescriptor) := []
  outputs : List (Channel OutputDescriptor) := []
  wait : Bool := true
  logs : Bool := true
  jobName : Option String := none
  deriving DecidableEq, Repr

namespace RunOptions

variable (o : RunOptions)

def withInput (c : Channel InputDescriptor) : RunOptions := { o with inputs := o.inputs ++ [c] }

def withOutput (c : Channel OutputDescriptor) : RunOptions := { o with outputs := o.outputs ++ [c] }

def withWait (wait : Bool) : RunOptions := { o with wait }

def withLogs (logs : Bool) : RunOptions := { o with logs }

def withJobName (name : String) : RunOptions := { o with jobName := some name }

end RunOptions

structure Processor where
  configuration : Configuration
  /-- Oldest first. -/
  jobs : List Job := []

namespace Processor

variable {σ : Type} (cs : Collaborators σ)

def latestJob (p : Processor) : Option Job := p.jobs.getLast?

/-- From options to a job that has been created: names are resolved, the hook changes the plan, and the
channels are made whole. -/
def start (c : Configuration) (hook : Hook σ) (o : RunOptions) : Activity σ Job := do
  Activity.ofExcept .typeConstraint (checkInputs o.inputs)
  let jobName ← resolveJobName cs c o.jobName
  let plan ← Staged.apply hook { jobName, inputs := o.inputs, outputs := o.outputs }
  let inputs ← normalizeInputs cs plan.jobName plan.inputs
  let outputs ← normalizeOutputs cs plan.jobName plan.outputs
  submit cs c { name := plan.jobName, inputs, outputs, entrypoint := plan.entrypoint }

/-- Starts a job and waits for it if asked to. The history grows by every job that was created. -/
def runWithHook (rounds : Nat) (hook : Hook σ) (p : Processor) (o : RunOptions) :
    StateM (Shared σ) (Except Halt Job × Processor) := do
  match ← (start cs p.configuration hook o).run with
  | .error h => return (.error h, p)
  | .ok job =>
      if o.wait then
        let (result, job) ← job.wait cs o.logs rounds
        return (result.map fun _ => job, { p with jobs := p.jobs ++ [job] })
      else return (.ok job, { p with jobs := p.jobs ++ [job] })

def run (rounds : Nat) (p : Processor) (o : RunOptions) :
    StateM (Shared σ) (Except Halt Job × Processor) :=
  p.runWithHook cs rounds .none o

end Processor

def defaultTag : String := "py3"

/-- Runs scripts; the configured entrypoint does not count. -/
structure ScriptProcessor where
  processor : Processor
  tag : String := defaultTag

namespace ScriptProcessor

variable {σ : Type} (cs : Collaborators σ)

def run (fs : File.System) (rounds : Nat) (p : ScriptProcessor) (source : String)
    (scriptName : Option String) (o : RunOptions) :
    StateM (Shared σ) (Except Halt Job × ScriptProcessor) := do
  let hook := ScriptSource.hook cs fs { source, scriptName, tag := p.tag }
  let (result, processor) ← p.processor.runWithHook cs rounds hook o
  return (result, { p with processor })

end ScriptProcessor

end Dispatch
