import Dispatch.Service.Activity

namespace Dispatch

open Time

structure Script where
  time : Instant := default
  buckets : List (Except ClientError String) := []
  creations : List (Except ClientError Unit) := []
  descriptions : List (Except ClientError JobDescription) := []
  stops : List (Except ClientError Unit) := []
  pages : List (Except ClientError LogPage) := []
  uploads : List (Except ClientError (Option String)) := []

namespace Script

/-- Rounds that suffice for any activity: past the end of the script a description fails and a page is
empty. -/
def rounds (w : Script) : Nat := w.descriptions.length + w.pages.length + 2

/-- The last bucket stays for ever; a description takes the name that was asked for; an upload that says
nothing else ends up where it was meant to. -/
def answer : (c : Call) → Script → c.Reply × Script
  | .defaultBucket, w =>
      match w.buckets with
      | [] => (.ok "bucket", w)
      | [b] => (b, w)
      | b :: rest => (b, { w with buckets := rest })
  | .upload _ uri, w =>
      match w.uploads with
      | [] => (.ok uri, w)
      | u :: rest => (u.map (·.getD uri), { w with uploads := rest })
  | .create _, w =>
      match w.creations with
      | [] => (.ok (), w)
      | c :: rest => (c, { w with creations := rest })
  | .describe job, w =>
      match w.descriptions with
      | [] => (.error (.api 500 "no scripted status"), w)
      | d :: rest => (d.map fun d => { d with jobName := job }, { w with descriptions := rest })
  | .stop _, w =>
      match w.stops with
      | [] => (.ok (), w)
      | s :: rest => (s, { w with stops := rest })
  | .logs _ _, w =>
      match w.pages with
      | [] => (.ok { events := [] }, w)
      | p :: rest => (p, { w with pages := rest })

def collaborators : Collaborators Script where
  clock w := (w.time, w)
  answer := answer

end Script

end Dispatch
