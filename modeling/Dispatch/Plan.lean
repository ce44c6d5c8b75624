import Dispatch.Service.Activity

namespace Dispatch

structure Plan where
  jobName : String
  inputs : List (Channel InputDescriptor) := []
  outputs : List (Channel OutputDescriptor) := []
  entrypoint : Option (List String) := none
  deriving DecidableEq, Repr

/-- A plan beside what the session shares. -/
structure Staging (σ : Type) where
  shared : Shared σ
  plan : Plan

abbrev Staged (σ α : Type) := ExceptT Halt (StateM (Staging σ)) α

abbrev Hook (σ : Type) := Staged σ Unit

def Hook.none {σ : Type} : Hook σ := fun s => (.ok (), s)

namespace Staged

variable {σ α : Type}

def lift (x : Activity σ α) : Staged σ α := fun s =>
  match x s.shared with
  | (r, shared) => (r, { s with shared })

def plan : Staged σ Plan := fun s => (.ok s.plan, s)

def edit (f : Plan → Plan) : Staged σ Unit := fun s => (.ok (), { s with plan := f s.plan })

def apply (hook : Hook σ) (plan : Plan) : Activity σ Plan := fun s =>
  match hook ⟨s, plan⟩ with
  | (.ok (), t) => (.ok t.plan, t.shared)
  | (.error h, t) => (.error h, t.shared)

end Staged

end Dispatch
