import Dispatch.Channel.Basic

namespace Dispatch

open Json

namespace InputDescriptor

def toJson (d : InputDescriptor) : Json :=
  .record [
    ("name", orNull .text d.name),
    ("source", .text d.source),
    ("destination", .text d.destination),
    ("data_type", ofNamed d.dataType),
    ("input_mode", ofNamed d.inputMode),
    ("download_mode", ofNamed d.downloadMode),
    ("distribution", ofNamed d.distribution),
    ("compression", orNull ofNamed d.compression)]

def layout : List Field := [
  ⟨"name", true⟩, ⟨"source", false⟩, ⟨"destination", false⟩, ⟨"data_type", true⟩, ⟨"input_mode", true⟩,
  ⟨"download_mode", true⟩, ⟨"distribution", true⟩, ⟨"compression", true⟩]

def ofJson? (j : Json) : Option InputDescriptor := do
  let fs ← fields? layout j
  return {
    name := ← fs.optional? "name" text?
    source := ← fs.required? "source" text?
    destination := ← fs.required? "destination" text?
    dataType := ← fs.defaulted? "data_type" default named?
    inputMode := ← fs.defaulted? "input_mode" default named?
    downloadMode := ← fs.defaulted? "download_mode" default named?
    distribution := ← fs.defaulted? "distribution" default named?
    compression := ← fs.optional? "compression" named? }

end InputDescriptor

namespace OutputDescriptor

def toJson (d : OutputDescriptor) : Json :=
  .record [
    ("name", orNull .text d.name),
    ("source", .text d.source),
    ("destination", .text d.destination),
    ("kms_key_id", orNull .text d.encryptionKey),
    ("upload_mode", ofNamed d.uploadMode)]

def layout : List Field := [
  ⟨"name", true⟩, ⟨"source", false⟩, ⟨"destination", false⟩, ⟨"kms_key_id", true⟩, ⟨"upload_mode", true⟩]

def ofJson? (j : Json) : Option OutputDescriptor := do
  let fs ← fields? layout j
  return {
    name := ← fs.optional? "name" text?
    source := ← fs.required? "source" text?
    destination := ← fs.required? "destination" text?
    encryptionKey := ← fs.optional? "kms_key_id" text?
    uploadMode := ← fs.defaulted? "upload_mode" default named? }

end OutputDescriptor

namespace Channel

variable {D : Type}

/-- How deep an element of a channel list may be, the list not counted. -/
def maxDepth : Nat := 126

def toJson (write : D → Json) : Channel D → Json
  | .path p => .text p
  | .descriptor d => write d

def ofJson? (read? : Decoder D) (j : Json) : Option (Channel D) :=
  if j.isSound && j.depth ≤ maxDepth then
    match j with
    | .string (some p) => some (.path p)
    | j => (read? j).map .descriptor
  else none

def listToJson (write : D → Json) (cs : List (Channel D)) : Json := .array (cs.map (toJson write))

def listOfJson? (read? : Decoder D) : Decoder (List (Channel D)) := list? (ofJson? read?)

end Channel

end Dispatch
