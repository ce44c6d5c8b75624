import Dispatch.Configuration
import Dispatch.Json.Record

namespace Dispatch

open Json

namespace Environment

def toJson (e : Environment) : Json := .record (e.entries.map fun p => (p.1, .text p.2))

/-- Of two members with one name the last counts. -/
def ofJson? : Decoder Environment
  | .object members => do
      let entries ← members.mapM fun m => do return (← m.1, ← text? m.2)
      return ofList entries
  | _ => none

end Environment

namespace Tag

def toJson (t : Tag) : Json := .record [("Key", .text t.key), ("Value", .text t.value)]

def ofJson? (j : Json) : Option Tag := do
  let fs ← fields? [⟨"Key", false⟩, ⟨"Value", false⟩] j
  return { key := ← fs.required? "Key" text?, value := ← fs.required? "Value" text? }

def listToJson (ts : List Tag) : Json := .array (ts.map toJson)

end Tag

namespace Network

def toJson (n : Network) : Json :=
  .record [
    ("enable_network_isolation", .bool n.isolated),
    ("encrypt_inter_container_traffic", orNull .bool n.encryptTraffic),
    ("security_group_ids", orNull texts n.securityGroups),
    ("subnets", orNull texts n.subnets)]

def layout : List Field := [
  ⟨"enable_network_isolation", false⟩, ⟨"encrypt_inter_container_traffic", false⟩,
  ⟨"security_group_ids", false⟩, ⟨"subnets", false⟩]

def ofJson? (j : Json) : Option Network := do
  let fs ← fields? layout j
  return {
    isolated := ← fs.required? "enable_network_isolation" bool?
    encryptTraffic := ← fs.optional? "encrypt_inter_container_traffic" bool?
    securityGroups := ← fs.optional? "security_group_ids" texts?
    subnets := ← fs.optional? "subnets" texts? }

end Network

namespace Configuration

def toJson (c : Configuration) : Json :=
  .record [
    ("role", .text c.role),
    ("image_uri", .text c.image),
    ("instance_type", .text c.instanceType),
    ("instance_count", .nat c.instanceCount.toNat),
    ("volume_size_gb", .nat c.volumeSize.toNat),
    ("volume_kms_key", orNull .text c.volumeKey),
    ("max_runtime_seconds", .nat c.maxRuntime.toNat),
    ("base_job_name", orNull .text c.baseJobName),
    ("env", orNull Environment.toJson c.environment),
    ("tags", orNull Tag.listToJson c.tags),
    ("network_config", orNull Network.toJson c.network),
    ("entrypoint", orNull texts c.entrypoint),
    ("arguments", orNull texts c.arguments)]

def layout : List Field := [
  ⟨"role", false⟩, ⟨"image_uri", false⟩, ⟨"instance_type", false⟩, ⟨"instance_count", false⟩,
  ⟨"volume_size_gb", false⟩, ⟨"volume_kms_key", false⟩, ⟨"max_runtime_seconds", false⟩,
  ⟨"base_job_name", false⟩, ⟨"env", false⟩, ⟨"tags", false⟩, ⟨"network_config", false⟩,
  ⟨"entrypoint", false⟩, ⟨"arguments", false⟩]

def ofJson? (j : Json) : Option Configuration := do
  let fs ← fields? layout j
  return {
    role := ← fs.required? "role" text?
    image := ← fs.required? "image_uri" text?
    instanceType := ← fs.required? "instance_type" text?
    instanceCount := ← fs.required? "instance_count" uint32?
    volumeSize := ← fs.required? "volume_size_gb" uint32?
    volumeKey := ← fs.optional? "volume_kms_key" text?
    maxRuntime := ← fs.required? "max_runtime_seconds" uint64?
    baseJobName := ← fs.optional? "base_job_name" text?
    environment := ← fs.optional? "env" Environment.ofJson?
    tags := ← fs.optional? "tags" (list? Tag.ofJson?)
    network := ← fs.optional? "network_config" Network.ofJson?
    entrypoint := ← fs.optional? "entrypoint" texts?
    arguments := ← fs.optional? "arguments" texts? }

end Configuration

end Dispatch
