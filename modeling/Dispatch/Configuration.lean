import Dispatch.Environment

namespace Dispatch

structure Tag where
  key : String
  value : String
  deriving DecidableEq, Repr

structure Network where
  isolated : Bool := false
  encryptTraffic : Option Bool := none
  securityGroups : Option (List String) := none
  subnets : Option (List String) := none
  deriving DecidableEq, Repr

namespace Network

def isolation : Network := { isolated := true }

def withVpc (n : Network) (securityGroups subnets : List String) : Network :=
  { n with securityGroups := some securityGroups, subnets := some subnets }

def withTrafficEncryption (n : Network) (enabled : Bool) : Network :=
  { n with encryptTraffic := some enabled }

end Network

structure Configuration where
  role : String
  image : String
  instanceType : String
  instanceCount : UInt32
  volumeSize : UInt32 := 30
  volumeKey : Option String := none
  /-- In seconds: a day, unless set. -/
  maxRuntime : UInt64 := 86400
  baseJobName : Option String := none
  environment : Option Environment := none
  tags : Option (List Tag) := none
  network : Option Network := none
  entrypoint : Option (List String) := none
  arguments : Option (List String) := none
  deriving DecidableEq, Repr

namespace Configuration

variable (c : Configuration)

def withVolumeSize (gigabytes : UInt32) : Configuration := { c with volumeSize := gigabytes }

def withVolumeKey (key : String) : Configuration := { c with volumeKey := some key }

def withMaxRuntime (seconds : UInt64) : Configuration := { c with maxRuntime := seconds }

def withBaseJobName (base : String) : Configuration := { c with baseJobName := some base }

def withVariable (name value : String) : Configuration :=
  { c with environment := some ((c.environment.getD .empty).insert name value) }

def withTag (key value : String) : Configuration :=
  { c with tags := some (c.tags.getD [] ++ [⟨key, value⟩]) }

def withNetwork (n : Network) : Configuration := { c with network := some n }

def withEntrypoint (words : List String) : Configuration := { c with entrypoint := some words }

def withArguments (words : List String) : Configuration := { c with arguments := some words }

end Configuration

end Dispatch
