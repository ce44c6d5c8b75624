import Dispatch.Json.Record

namespace Dispatch.Storage

open Json (Named)

/-- What the address of an input refers to: a manifest that lists objects, or every object under a key
prefix. -/
inductive DataType
  | manifestFile
  | prefixed
  deriving DecidableEq, Repr

inductive InputMode
  | file
  | pipe
  deriving DecidableEq, Repr

inductive DownloadMode
  | continuous
  | startOfJob
  deriving DecidableEq, Repr

inductive Distribution
  | fullyReplicated
  | shardedByKey
  deriving DecidableEq, Repr

inductive Compression
  | uncompressed
  | gzip
  deriving DecidableEq, Repr

inductive UploadMode
  | continuous
  | endOfJob
  deriving DecidableEq, Repr

instance : Inhabited DataType := ⟨.manifestFile⟩
instance : Inhabited InputMode := ⟨.file⟩
instance : Inhabited DownloadMode := ⟨.continuous⟩
instance : Inhabited Distribution := ⟨.fullyReplicated⟩
instance : Inhabited UploadMode := ⟨.continuous⟩

instance : Named DataType where
  name
    | .manifestFile => "ManifestFile"
    | .prefixed => "S3Prefix"
  values := [.manifestFile, .prefixed]
  mem_values a := by cases a <;> simp
  name_injective a b := by cases a <;> cases b <;> simp

instance : Named InputMode where
  name
    | .file => "File"
    | .pipe => "Pipe"
  values := [.file, .pipe]
  mem_values a := by cases a <;> simp
  name_injective a b := by cases a <;> cases b <;> simp

instance : Named DownloadMode where
  name
    | .continuous => "Continuous"
    | .startOfJob => "StartOfJob"
  values := [.continuous, .startOfJob]
  mem_values a := by cases a <;> simp
  name_injective a b := by cases a <;> cases b <;> simp

instance : Named Distribution where
  name
    | .fullyReplicated => "FullyReplicated"
    | .shardedByKey => "ShardedByS3Key"
  values := [.fullyReplicated, .shardedByKey]
  mem_values a := by cases a <;> simp
  name_injective a b := by cases a <;> cases b <;> simp

instance : Named Compression where
  name
    | .uncompressed => "None"
    | .gzip => "Gzip"
  values := [.uncompressed, .gzip]
  mem_values a := by cases a <;> simp
  name_injective a b := by cases a <;> cases b <;> simp

instance : Named UploadMode where
  name
    | .continuous => "Continuous"
    | .endOfJob => "EndOfJob"
  values := [.continuous, .endOfJob]
  mem_values a := by cases a <;> simp
  name_injective a b := by cases a <;> cases b <;> simp

end Dispatch.Storage
