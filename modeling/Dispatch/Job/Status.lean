import Dispatch.Json.Record
import Dispatch.Time.Instant

namespace Dispatch

open Time

inductive JobStatus
  | inProgress
  | completed
  | failed
  | stopping
  | stopped
  deriving DecidableEq, Repr

namespace JobStatus

def isTerminal : JobStatus → Bool
  | .completed | .failed | .stopped => true
  | .inProgress | .stopping => false

instance : Json.Named JobStatus where
  name
    | .inProgress => "InProgress"
    | .completed => "Completed"
    | .failed => "Failed"
    | .stopping => "Stopping"
    | .stopped => "Stopped"
  values := [.inProgress, .completed, .failed, .stopping, .stopped]
  mem_values a := by cases a <;> simp
  name_injective a b := by cases a <;> cases b <;> simp

end JobStatus

structure JobDescription where
  jobName : String
  status : JobStatus
  failureReason : Option String := none
  exitMessage : Option String := none
  created : Option Instant := none
  ended : Option Instant := none
  deriving DecidableEq

end Dispatch
