import Dispatch.Http.Transport
import Dispatch.Proofs.RoundTrip
import Dispatch.Proofs.Timestamp
import Dispatch.Wire.Job

namespace Dispatch

open Json Time

attribute [local simp] Fields.required? Fields.optional? List.lookup_cons

@[simp]
theorem Time.Instant.readsBack : ReadsBack toJson ofJson? := by
  refine ⟨fun _ => trivial, fun _ => nofun, fun t => ?_⟩
  rw [toJson, ofJson?, text?_text, Option.bind_some, String.toList_ofList, read?_write]

@[simp]
theorem JobDescription.readsBack : ReadsBack toJson ofJson? := by
  refine readsBack_record (fun _ => rfl) (fun _ => rfl) (by decide) ?_ (fun d => ?_) fun d => ?_
  · simp [layout]
  · simp [Instant.readsBack.written]
  · iterate 6 refine bind_eq_some_of (by simp; rfl) ?_
    rfl

@[simp]
theorem LogEvent.readsBack : ReadsBack toJson ofJson? := by
  refine readsBack_record (fun _ => rfl) (fun _ => rfl) (by decide) ?_ (fun e => ?_) fun e => ?_
  · simp [layout]
  · simp [Instant.readsBack.written]
  · iterate 3 refine bind_eq_some_of (by simp [Instant.readsBack.reads]; rfl) ?_
    rfl

theorem LogPage.readsBack : ReadsBack toJson ofJson? := by
  refine readsBack_record (fun _ => rfl) (fun _ => rfl) (by decide) ?_ (fun p => ?_) fun p => ?_
  · simp
  · simp [LogEvent.readsBack.written]
  · iterate 2 refine bind_eq_some_of (by simp [LogEvent.readsBack.reads]; rfl) ?_
    rfl

/-- What was read from any text is read as the same once it is written again. -/
def Json.Stabilizes {α : Type} (write : α → Json) (read : Decoder α) : Prop :=
  ∀ text a, (parse? text).bind read = some a → (parse? (render (write a))).bind read = some a

theorem Json.ReadsBack.stabilizes {α : Type} {write : α → Json} {read : Decoder α}
    (h : ReadsBack write read) : Stabilizes write read := fun _ a _ => h.survives a

/-- A successful response carries a value to its reader. -/
def Http.Carries {α : Type} (write : α → Json) (read : Decoder α) : Prop :=
  ∀ a (r : Response), r.isSuccess = true → r.body = Text.Utf8.encode (write a).print →
    readBody read r = .ok a

theorem Json.ReadsBack.carries {α : Type} {write : α → Json} {read : Decoder α}
    (h : ReadsBack write read) : Http.Carries write read := by
  intro a r hr hbody
  have hparse : parseChars? (write a).print = some (write a) := by
    have hread := parse?_render (h.written a)
    rwa [parse?, render, String.toList_ofList] at hread
  rw [Http.readBody, Http.checkStatus, if_pos hr, hbody, Text.Utf8.decode?_encode, Option.bind_some, hparse,
    Option.bind_some, h.reads]
  rfl

/-- What the service reports is the same after it was text, in the body of a response too, and a report read
from any text is settled by writing it. An instant is written as a timestamp of UTC, and read from a text
exactly if it is the instant at which the clock that the text was taken from shows what the text says. The
dates that clocks show follow one another from the first of January of 1970 on, and back. -/
theorem reports_survive_text :
    Survives JobDescription.toJson JobDescription.ofJson? ∧
    Survives LogEvent.toJson LogEvent.ofJson? ∧
    Survives LogPage.toJson LogPage.ofJson? ∧
    Http.Carries JobDescription.toJson JobDescription.ofJson? ∧
    Http.Carries LogPage.toJson LogPage.ofJson? ∧
    Stabilizes JobDescription.toJson JobDescription.ofJson? ∧
    Stabilizes LogEvent.toJson LogEvent.ofJson? ∧
    Stabilizes LogPage.toJson LogPage.ofJson? ∧
    (∀ t : Instant, IsTimestamp t.reading t.write ∧ readLocal? t.write = some (t.reading, 0)) ∧
    (∀ (s : List Char) (t : Instant), Instant.read? s = some t ↔
      ∃ r offset, readLocal? s = some (r, offset) ∧ r.IsValid ∧ t.readingAt offset = r) ∧
    Date.ofDays 0 = ⟨1970, 1, 1⟩ ∧ ∀ days, Date.ofDays (days + 1) = (Date.ofDays days).next :=
  ⟨JobDescription.readsBack.survives, LogEvent.readsBack.survives, LogPage.readsBack.survives,
    JobDescription.readsBack.carries, LogPage.readsBack.carries, JobDescription.readsBack.stabilizes,
    LogEvent.readsBack.stabilizes, LogPage.readsBack.stabilizes,
    fun t => ⟨isTimestamp_write t, readLocal?_write t⟩, fun _ _ => Instant.read?_eq_some_iff,
    by decide, Date.ofDays_succ⟩

end Dispatch
