import Dispatch.Naming
import Dispatch.Service.Activity

namespace Dispatch

structure Job where
  name : String
  inputs : List InputDescriptor
  outputs : List OutputDescriptor
  terminalStatus : Option JobStatus := none
  deriving DecidableEq, Repr

variable {σ : Type} (cs : Collaborators σ)

def resolveJobName (c : Configuration) : Option String → Activity σ String
  | some name => pure name
  | none => do return Naming.generate (Naming.base c) (← Activity.now cs)

def submit (c : Configuration) (job : NormalizedJob) : Activity σ Job := do
  let request ← Activity.ofExcept .validation (Request.build c job)
  Activity.perform cs (.create request)
  return { name := job.name, inputs := job.inputs, outputs := job.outputs }

namespace Job

variable (job : Job)

def attach (_name : String) : Except ProcessingError Job := .error .attachUnsupported

def describe : Activity σ JobDescription := Activity.perform cs (.describe job.name)

def stop : Activity σ Unit := Activity.perform cs (.stop job.name)

def logEvents : List LogEvent → Activity σ Unit
  | [] => pure ()
  | e :: es => do
      Activity.log job.name e
      logEvents es

def isLast (p : LogPage) : Bool := p.events.isEmpty || p.nextToken.isNone

/-- Hands the pages of the log to the sink, up to the first last one. The token that is returned is the
latest there was. -/
def drain : Nat → Option String → Activity σ (Option String)
  | 0, _ => throw .unfinished
  | rounds + 1, token => do
      let page ← Activity.perform cs (.logs job.name token)
      job.logEvents page.events
      let token := page.nextToken.or token
      if isLast page then return token else drain rounds token

def drainIf (streaming : Bool) (rounds : Nat) (token : Option String) : Activity σ (Option String) :=
  if streaming then job.drain cs rounds token else pure token

/-- Asks for the state of the job until it is terminal, and for its log before each time. -/
def watch (streaming : Bool) (pages : Nat) :
    Nat → Option String → Activity σ (JobDescription × Option String)
  | 0, _ => throw .unfinished
  | rounds + 1, token => do
      let token ← job.drainIf cs streaming pages token
      let d ← job.describe cs
      if d.status.isTerminal then return (d, token) else watch streaming pages rounds token

def follow (streaming : Bool) (rounds : Nat) : Activity σ JobDescription := do
  let (d, token) ← job.watch cs streaming rounds rounds none
  let _ ← job.drainIf cs streaming rounds token
  return d

def unknownReason : String := "no failure reason reported"

/-- The end of a job is its result, unless the job failed. -/
def outcome (d : JobDescription) : Except Halt JobDescription :=
  if d.status = .failed then
    .error (.failed (.jobFailed job.name (d.failureReason.getD unknownReason)))
  else .ok d

/-- Waits for the job to end. The handle learns the state it ended in when everything else is done. -/
def wait (streaming : Bool) (rounds : Nat) : StateM (Shared σ) (Except Halt JobDescription × Job) := do
  match ← (job.follow cs streaming rounds).run with
  | .ok d => return (job.outcome d, { job with terminalStatus := some d.status })
  | .error h => return (.error h, job)

end Job

end Dispatch
