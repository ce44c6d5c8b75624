import Dispatch.Service.Activity
import Dispatch.Storage.Uri

namespace Dispatch

open Storage

variable {σ : Type} (cs : Collaborators σ) (job : String)

def defaultOutputFolder : String := "output"

def checkInputs (inputs : List (Channel InputDescriptor)) : Except TypeConstraint Unit :=
  match inputs.findIdx? (!·.isDescriptor) with
  | some i => .error (.barePath (i + 1))
  | none => .ok ()

def inputName (position : Nat) : String := "input-" ++ toString position

def outputName (position : Nat) : String := "output-" ++ toString position

/-- Names the input, and uploads its source unless it is remote already. -/
def InputDescriptor.normalize (position : Nat) (d : InputDescriptor) : Activity σ InputDescriptor := do
  let name := d.name.getD (inputName position)
  let d := d.withName name
  if isRemote d.source then return d
  let bucket ← Activity.defaultBucket cs
  let source ← Activity.upload cs d.source (remoteUri bucket [job, name])
  return { d with source }

def normalizeInputsFrom : Nat → List InputDescriptor → Activity σ (List InputDescriptor)
  | _, [] => pure []
  | position, d :: ds => do
      let d ← d.normalize cs job position
      let ds ← normalizeInputsFrom (position + 1) ds
      return d :: ds

def normalizeInputs (inputs : List (Channel InputDescriptor)) : Activity σ (List InputDescriptor) := do
  Activity.ofExcept .typeConstraint (checkInputs inputs)
  normalizeInputsFrom cs job 1 (inputs.filterMap Channel.descriptor?)

def Channel.toOutput : Channel OutputDescriptor → Activity σ OutputDescriptor
  | .descriptor d => pure d
  | .path source => do
      let bucket ← Activity.defaultBucket cs
      return { source, destination := remoteUri bucket [job, defaultOutputFolder] }

def normalizeOutputsFrom : Nat → List (Channel OutputDescriptor) → Activity σ (List OutputDescriptor)
  | _, [] => pure []
  | position, c :: rest => do
      let d ← c.toOutput cs job
      let d := d.withName (d.name.getD (outputName position))
      let ds ← normalizeOutputsFrom (position + 1) rest
      return d :: ds

def normalizeOutputs (outputs : List (Channel OutputDescriptor)) : Activity σ (List OutputDescriptor) :=
  normalizeOutputsFrom cs job 1 outputs

end Dispatch
