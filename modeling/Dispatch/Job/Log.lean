import Dispatch.Time.Written

namespace Dispatch

open Time

structure LogEvent where
  timestamp : Instant
  stream : String
  message : String
  deriving DecidableEq

structure LogPage where
  events : List LogEvent
  nextToken : Option String := none
  deriving DecidableEq

abbrev LogBuffer := List (String × LogEvent)

namespace LogBuffer

def write (b : LogBuffer) (job : String) (e : LogEvent) : LogBuffer := b ++ [(job, e)]

def drain (b : LogBuffer) : LogBuffer × LogBuffer := (b, [])

end LogBuffer

/-- An event as a line for people, under a target and a level that all job output has. -/
structure LogLine where
  target : String := "quarry::job_logs"
  level : String := "INFO"
  message : String
  jobName : String
  stream : String
  timestamp : String
  deriving DecidableEq, Repr

def LogEvent.line (e : LogEvent) (job : String) : LogLine :=
  { message := e.message, jobName := job, stream := e.stream, timestamp := String.ofList e.timestamp.display }

end Dispatch
