import Dispatch.Job.Status
import Dispatch.Job.Log
import Dispatch.Time.Written

namespace Dispatch

open Json Time

def Time.Instant.toJson (t : Instant) : Json := .text (String.ofList t.write)

def Time.Instant.ofJson? (j : Json) : Option Instant := (text? j).bind fun s => Instant.read? s.toList

namespace JobDescription

def toJson (d : JobDescription) : Json :=
  .record [
    ("ProcessingJobName", .text d.jobName),
    ("ProcessingJobStatus", ofNamed d.status),
    ("FailureReason", orNull .text d.failureReason),
    ("ExitMessage", orNull .text d.exitMessage),
    ("CreationTime", orNull Instant.toJson d.created),
    ("ProcessingEndTime", orNull Instant.toJson d.ended)]

def layout : List Field := [
  ⟨"ProcessingJobName", false⟩, ⟨"ProcessingJobStatus", false⟩, ⟨"FailureReason", true⟩,
  ⟨"ExitMessage", true⟩, ⟨"CreationTime", true⟩, ⟨"ProcessingEndTime", true⟩]

def ofJson? (j : Json) : Option JobDescription := do
  let fs ← fields? layout j
  return {
    jobName := ← fs.required? "ProcessingJobName" text?
    status := ← fs.required? "ProcessingJobStatus" named?
    failureReason := ← fs.optional? "FailureReason" text?
    exitMessage := ← fs.optional? "ExitMessage" text?
    created := ← fs.optional? "CreationTime" Instant.ofJson?
    ended := ← fs.optional? "ProcessingEndTime" Instant.ofJson? }

end JobDescription

namespace LogEvent

def toJson (e : LogEvent) : Json :=
  .record [
    ("timestamp", e.timestamp.toJson),
    ("stream", .text e.stream),
    ("message", .text e.message)]

def layout : List Field := [⟨"timestamp", false⟩, ⟨"stream", false⟩, ⟨"message", false⟩]

def ofJson? (j : Json) : Option LogEvent := do
  let fs ← fields? layout j
  return {
    timestamp := ← fs.required? "timestamp" Instant.ofJson?
    stream := ← fs.required? "stream" text?
    message := ← fs.required? "message" text? }

end LogEvent

namespace LogPage

def toJson (p : LogPage) : Json :=
  .record [
    ("events", .array (p.events.map LogEvent.toJson)),
    ("next_token", orNull .text p.nextToken)]

def ofJson? (j : Json) : Option LogPage := do
  let fs ← fields? [⟨"events", false⟩, ⟨"next_token", true⟩] j
  return {
    events := ← fs.required? "events" (list? LogEvent.ofJson?)
    nextToken := ← fs.optional? "next_token" text? }

end LogPage

end Dispatch
