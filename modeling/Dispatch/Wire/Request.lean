import Dispatch.Request
import Dispatch.Wire.Configuration

namespace Dispatch

open Json

def Json.whenSet {α : Type} (name : String) (write : α → Json) : Option α → List (String × Json)
  | none => []
  | some a => [(name, write a)]

namespace InputFragment

def toJson (f : InputFragment) : Json :=
  .record [
    ("InputName", orNull .text f.name),
    ("S3Input", .record ([
      ("S3Uri", .text f.uri),
      ("LocalPath", .text f.localPath),
      ("S3DataType", ofNamed f.dataType),
      ("S3InputMode", ofNamed f.inputMode),
      ("S3DownloadMode", ofNamed f.downloadMode),
      ("S3DataDistributionType", ofNamed f.distribution)] ++
      whenSet "S3CompressionType" ofNamed f.compression))]

def storageLayout : List Field := [
  ⟨"S3Uri", false⟩, ⟨"LocalPath", false⟩, ⟨"S3DataType", false⟩, ⟨"S3InputMode", false⟩,
  ⟨"S3DownloadMode", false⟩, ⟨"S3DataDistributionType", false⟩, ⟨"S3CompressionType", true⟩]

def ofJson? (j : Json) : Option InputFragment := do
  let fs ← fields? [⟨"InputName", false⟩, ⟨"S3Input", false⟩] j
  let storage ← fs.required? "S3Input" (fields? storageLayout)
  return {
    name := ← fs.optional? "InputName" text?
    uri := ← storage.required? "S3Uri" text?
    localPath := ← storage.required? "LocalPath" text?
    dataType := ← storage.required? "S3DataType" named?
    inputMode := ← storage.required? "S3InputMode" named?
    downloadMode := ← storage.required? "S3DownloadMode" named?
    distribution := ← storage.required? "S3DataDistributionType" named?
    compression := ← storage.optional? "S3CompressionType" named? }

end InputFragment

namespace OutputFragment

def toJson (f : OutputFragment) : Json :=
  .record [
    ("OutputName", orNull .text f.name),
    ("S3Output", .record ([
      ("S3Uri", .text f.uri),
      ("LocalPath", .text f.localPath),
      ("S3UploadMode", ofNamed f.uploadMode)] ++
      whenSet "KmsKeyId" .text f.encryptionKey))]

def storageLayout : List Field := [
  ⟨"S3Uri", false⟩, ⟨"LocalPath", false⟩, ⟨"S3UploadMode", false⟩, ⟨"KmsKeyId", true⟩]

def ofJson? (j : Json) : Option OutputFragment := do
  let fs ← fields? [⟨"OutputName", false⟩, ⟨"S3Output", false⟩] j
  let storage ← fs.required? "S3Output" (fields? storageLayout)
  return {
    name := ← fs.optional? "OutputName" text?
    uri := ← storage.required? "S3Uri" text?
    localPath := ← storage.required? "LocalPath" text?
    uploadMode := ← storage.required? "S3UploadMode" named?
    encryptionKey := ← storage.optional? "KmsKeyId" text? }

end OutputFragment

namespace Vpc

def toJson (v : Vpc) : Json :=
  .record [("SecurityGroupIds", texts v.securityGroups), ("Subnets", texts v.subnets)]

def ofJson? (j : Json) : Option Vpc := do
  let fs ← fields? [⟨"SecurityGroupIds", false⟩, ⟨"Subnets", false⟩] j
  return {
    securityGroups := ← fs.required? "SecurityGroupIds" texts?
    subnets := ← fs.required? "Subnets" texts? }

end Vpc

namespace NetworkFragment

def toJson (n : NetworkFragment) : Json :=
  .record (("EnableNetworkIsolation", .bool n.isolated) ::
    (whenSet "EnableInterContainerTrafficEncryption" .bool n.encryptTraffic ++
      whenSet "VpcConfig" Vpc.toJson n.vpc))

def layout : List Field := [
  ⟨"EnableNetworkIsolation", false⟩, ⟨"EnableInterContainerTrafficEncryption", true⟩, ⟨"VpcConfig", true⟩]

def ofJson? (j : Json) : Option NetworkFragment := do
  let fs ← fields? layout j
  return {
    isolated := ← fs.required? "EnableNetworkIsolation" bool?
    encryptTraffic := ← fs.optional? "EnableInterContainerTrafficEncryption" bool?
    vpc := ← fs.optional? "VpcConfig" Vpc.ofJson? }

end NetworkFragment

namespace Cluster

def toJson (c : Cluster) : Json :=
  .record ([
    ("InstanceType", .text c.instanceType),
    ("InstanceCount", .nat c.instanceCount.toNat),
    ("VolumeSizeInGB", .nat c.volumeSize.toNat)] ++
    whenSet "VolumeKmsKeyId" .text c.volumeKey)

def layout : List Field := [
  ⟨"InstanceType", false⟩, ⟨"InstanceCount", false⟩, ⟨"VolumeSizeInGB", false⟩, ⟨"VolumeKmsKeyId", true⟩]

def ofJson? (j : Json) : Option Cluster := do
  let fs ← fields? layout j
  return {
    instanceType := ← fs.required? "InstanceType" text?
    instanceCount := ← fs.required? "InstanceCount" uint32?
    volumeSize := ← fs.required? "VolumeSizeInGB" uint32?
    volumeKey := ← fs.optional? "VolumeKmsKeyId" text? }

def resourcesOfJson? (j : Json) : Option Cluster := do
  let fs ← fields? [⟨"ClusterConfig", false⟩] j
  fs.required? "ClusterConfig" ofJson?

end Cluster

namespace Application

def toJson (a : Application) : Json :=
  .record (("ImageUri", .text a.image) ::
    (whenSet "ContainerArguments" texts a.arguments ++ whenSet "ContainerEntrypoint" texts a.entrypoint))

def ofJson? (j : Json) : Option Application := do
  let fs ← fields? [⟨"ImageUri", false⟩, ⟨"ContainerArguments", true⟩, ⟨"ContainerEntrypoint", true⟩] j
  return {
    image := ← fs.required? "ImageUri" text?
    arguments := ← fs.optional? "ContainerArguments" texts?
    entrypoint := ← fs.optional? "ContainerEntrypoint" texts? }

end Application

namespace Request

def toJson (r : Request) : Json :=
  .record ([
    ("InputDataConfig", .array (r.inputs.map InputFragment.toJson)),
    ("OutputDataConfig", .array (r.outputs.map OutputFragment.toJson)),
    ("ProcessingJobName", .text r.jobName),
    ("ProcessingResources", .record [("ClusterConfig", r.cluster.toJson)]),
    ("StoppingCondition", .record [("MaxRuntimeInSeconds", .nat r.maxRuntime.toNat)]),
    ("AppSpecification", r.application.toJson)] ++
    whenSet "Environment" Environment.toJson r.environment ++ [
    ("NetworkConfig", orNull NetworkFragment.toJson r.network),
    ("RoleArn", .text r.role)] ++
    whenSet "Tags" Tag.listToJson r.tags)

def layout : List Field := [
  ⟨"InputDataConfig", false⟩, ⟨"OutputDataConfig", false⟩, ⟨"ProcessingJobName", false⟩,
  ⟨"ProcessingResources", false⟩, ⟨"StoppingCondition", false⟩, ⟨"AppSpecification", false⟩,
  ⟨"Environment", true⟩, ⟨"NetworkConfig", false⟩, ⟨"RoleArn", false⟩, ⟨"Tags", true⟩]

def runtimeOfJson? (j : Json) : Option UInt64 := do
  let fs ← fields? [⟨"MaxRuntimeInSeconds", false⟩] j
  fs.required? "MaxRuntimeInSeconds" uint64?

def ofJson? (j : Json) : Option Request := do
  let fs ← fields? layout j
  return {
    inputs := ← fs.required? "InputDataConfig" (list? InputFragment.ofJson?)
    outputs := ← fs.required? "OutputDataConfig" (list? OutputFragment.ofJson?)
    jobName := ← fs.required? "ProcessingJobName" text?
    cluster := ← fs.required? "ProcessingResources" Cluster.resourcesOfJson?
    maxRuntime := ← fs.required? "StoppingCondition" runtimeOfJson?
    application := ← fs.required? "AppSpecification" Application.ofJson?
    environment := ← fs.optional? "Environment" Environment.ofJson?
    network := ← fs.optional? "NetworkConfig" NetworkFragment.ofJson?
    role := ← fs.required? "RoleArn" text?
    tags := ← fs.optional? "Tags" (list? Tag.ofJson?) }

end Request

end Dispatch
