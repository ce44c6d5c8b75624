import Dispatch.Channel.Basic
import Dispatch.Configuration
import Dispatch.Error

namespace Dispatch

open Storage

structure InputFragment where
  name : Option String
  uri : String
  localPath : String
  dataType : DataType
  inputMode : InputMode
  downloadMode : DownloadMode
  distribution : Distribution
  compression : Option Compression
  deriving DecidableEq, Repr

structure OutputFragment where
  name : Option String
  uri : String
  localPath : String
  uploadMode : UploadMode
  encryptionKey : Option String
  deriving DecidableEq, Repr

structure Vpc where
  securityGroups : List String
  subnets : List String
  deriving DecidableEq, Repr

structure NetworkFragment where
  isolated : Bool
  encryptTraffic : Option Bool
  vpc : Option Vpc
  deriving DecidableEq, Repr

structure Cluster where
  instanceType : String
  instanceCount : UInt32
  volumeSize : UInt32
  volumeKey : Option String
  deriving DecidableEq, Repr

structure Application where
  image : String
  arguments : Option (List String)
  entrypoint : Option (List String)
  deriving DecidableEq, Repr

structure Request where
  inputs : List InputFragment
  outputs : List OutputFragment
  jobName : String
  cluster : Cluster
  maxRuntime : UInt64
  application : Application
  environment : Option Environment
  network : Option NetworkFragment
  role : String
  tags : Option (List Tag)
  deriving DecidableEq, Repr

/-- The part of the payload that an input becomes, if it is consistent. -/
def InputDescriptor.fragment (d : InputDescriptor) : Except ValidationError InputFragment :=
  if d.IsConsistent then
    .ok { name := d.name, uri := d.source, localPath := d.destination, dataType := d.dataType
          inputMode := d.inputMode, downloadMode := d.downloadMode, distribution := d.distribution
          compression := d.compression }
  else .error (.compressedNotStreamed d.label d.inputMode)

def OutputDescriptor.fragment (d : OutputDescriptor) : OutputFragment :=
  { name := d.name, uri := d.destination, localPath := d.source, uploadMode := d.uploadMode
    encryptionKey := d.encryptionKey }

/-- The private network is named only where both its groups and its subnets are. -/
def Network.fragment (n : Network) : NetworkFragment :=
  { isolated := n.isolated
    encryptTraffic := n.encryptTraffic
    vpc := match n.securityGroups, n.subnets with
      | some securityGroups, some subnets => some ⟨securityGroups, subnets⟩
      | _, _ => none }

/-- A job whose channels are all descriptors. Its entrypoint goes before the configured one. -/
structure NormalizedJob where
  name : String
  inputs : List InputDescriptor
  outputs : List OutputDescriptor
  entrypoint : Option (List String) := none
  deriving DecidableEq, Repr

def Request.build (c : Configuration) (job : NormalizedJob) : Except ValidationError Request := do
  let inputs ← job.inputs.mapM InputDescriptor.fragment
  return {
    inputs
    outputs := job.outputs.map OutputDescriptor.fragment
    jobName := job.name
    cluster := ⟨c.instanceType, c.instanceCount, c.volumeSize, c.volumeKey⟩
    maxRuntime := c.maxRuntime
    application := ⟨c.image, c.arguments, job.entrypoint.or c.entrypoint⟩
    environment := c.environment
    network := c.network.map Network.fragment
    role := c.role
    tags := c.tags }

end Dispatch
