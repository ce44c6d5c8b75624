import Dispatch.Handles
import Dispatch.Service.Activity
import Dispatch.Settings
import Dispatch.Text.Quoted

namespace Dispatch

/-- The state of the collaborators, what was called, and the sessions. A cell holds a default bucket: every
session opened anew has one of its own, and clones of a session share theirs. -/
structure Sessions (σ : Type) where
  world : σ
  sink : LogBuffer := []
  trace : List Event := []
  handles : Handles (Option String) Duration := .empty

namespace Sessions

variable {σ : Type} (s : Sessions σ)

def defaultPollInterval : Duration := .ofSeconds 5

def openWith (interval : Duration) : Sessions σ × Nat :=
  let (handles, i) := s.handles.add none interval
  ({ s with handles }, i)

def openNew : Sessions σ × Nat := s.openWith defaultPollInterval

def clone? (i : Nat) : Option (Sessions σ × Nat) :=
  (s.handles.clone? i).map fun p => ({ s with handles := p.1 }, p.2)

def pollInterval? (i : Nat) : Option Duration := s.handles.own? i

def withPollInterval (i : Nat) (d : Duration) : Sessions σ :=
  { s with handles := s.handles.setOwn i d }

/-- Runs something through session `i`, with the bucket its clones share. -/
def through {α : Type} (i : Nat) (x : StateM (Shared σ) α) : Option (α × Sessions σ) :=
  match s.handles.cell? i with
  | none => none
  | some bucket =>
      let (a, t) := x { world := s.world, bucket, sink := s.sink, trace := s.trace }
      some (a, { world := t.world, sink := t.sink, trace := t.trace, handles := s.handles.setCell i t.bucket })

def display? (i : Nat) : Option String := do
  let interval ← s.handles.own? i
  let bucket ← s.handles.cell? i
  let shown := match bucket with
    | none => "None"
    | some b => "Some(" ++ String.ofList (Text.quoted b.toList) ++ ")"
  return "Session \x7b poll_interval: " ++ interval.text ++ ", default_bucket: " ++ shown ++ ", .. \x7d"

end Sessions

abbrev Sinks := Handles LogBuffer Unit

namespace Sinks

def write? (s : Sinks) (i : Nat) (job : String) (e : LogEvent) : Option Sinks :=
  (s.cell? i).map fun b => s.setCell i (b.write job e)

def drain? (s : Sinks) (i : Nat) : Option (LogBuffer × Sinks) :=
  (s.cell? i).map fun b => (b.drain.1, s.setCell i b.drain.2)

end Sinks

end Dispatch
