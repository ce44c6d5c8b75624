import Dispatch.Job.Log
import Dispatch.Job.Status
import Dispatch.Request

namespace Dispatch

open Time

inductive Call
  | defaultBucket
  | upload (path uri : String)
  | create (r : Request)
  | describe (job : String)
  | stop (job : String)
  | logs (job : String) (token : Option String)
  deriving DecidableEq, Repr

abbrev Call.Answer : Call → Type
  | .defaultBucket => String
  | .upload .. => String
  | .create _ => Unit
  | .describe _ => JobDescription
  | .stop _ => Unit
  | .logs .. => LogPage

abbrev Call.Reply (c : Call) : Type := Except ClientError c.Answer

structure Collaborators (σ : Type) where
  clock : σ → Instant × σ
  answer : (c : Call) → σ → c.Reply × σ

/-- One step that the outside can see: a call with its reply, or an event handed to the log sink. -/
inductive Event
  | called (c : Call) (reply : c.Reply)
  | logged (job : String) (e : LogEvent)

/-- What all users of a session share: the state of the collaborators, the default bucket once it is
known, the log sink, and the trace, oldest first. -/
structure Shared (σ : Type) where
  world : σ
  bucket : Option String := none
  sink : LogBuffer := []
  trace : List Event := []

inductive Halt
  | failed (e : ProcessingError)
  | unfinished

abbrev Activity (σ α : Type) := ExceptT Halt (StateM (Shared σ)) α

namespace Activity

variable {σ : Type} (cs : Collaborators σ)

def fail {α : Type} (e : ProcessingError) : Activity σ α := throw (.failed e)

def perform (c : Call) : Activity σ c.Answer := fun s =>
  match cs.answer c s.world with
  | (reply, world) =>
      (reply.mapError fun e => .failed (.remote e), { s with world, trace := s.trace ++ [.called c reply] })

def now : Activity σ Instant := fun s =>
  match cs.clock s.world with
  | (t, world) => (.ok t, { s with world })

def log (job : String) (e : LogEvent) : Activity σ Unit := fun s =>
  (.ok (), { s with sink := s.sink.write job e, trace := s.trace ++ [.logged job e] })

/-- The default bucket, asked for once: an answer is remembered, a failure is not. -/
def defaultBucket : Activity σ String := fun s =>
  match s.bucket with
  | some b => (.ok b, s)
  | none =>
      match perform cs .defaultBucket s with
      | (.ok b, s) => (.ok b, { s with bucket := some b })
      | (.error h, s) => (.error h, s)

def upload (path uri : String) : Activity σ String := perform cs (.upload path uri)

def ofExcept {α ε : Type} (wrap : ε → ProcessingError) : Except ε α → Activity σ α
  | .ok a => pure a
  | .error e => fail (wrap e)

end Activity

end Dispatch
