import Dispatch.Text.Split
import Dispatch.Text.Utf8
import Dispatch.Json.Printer
import Dispatch.Json.Reader
import Dispatch.Json.Record
import Dispatch.Time.Written
import Dispatch.Storage.Uri
import Dispatch.Channel.Basic
import Dispatch.Configuration
import Dispatch.Job.Status
import Dispatch.Job.Log
import Dispatch.Url.Basic
import Dispatch.Error
import Dispatch.Naming
import Dispatch.Settings
import Dispatch.Wire.Channel
import Dispatch.Wire.Job
import Dispatch.Wire.Request
import Dispatch.Service.Scripted
import Dispatch.Processor
import Dispatch.Http.Collaborators
import Dispatch.Session
import Dispatch.Proofs.Activity
import Dispatch.Proofs.Trace
import Dispatch.Proofs.Phases
import Dispatch.Proofs.Rounds
import Dispatch.Proofs.Stream
import Dispatch.Proofs.History
import Dispatch.Proofs.Names
import Dispatch.Proofs.Course
import Dispatch.Proofs.Ending
import Dispatch.Proofs.Uploads
import Dispatch.Proofs.Mounting
import Dispatch.Proofs.SharedBucket
import Dispatch.Proofs.Faults
import Dispatch.Proofs.JobAddress
import Dispatch.Proofs.DistinctObjects
import Dispatch.Proofs.RoundTrip
import Dispatch.Proofs.Clock
import Dispatch.Proofs.Timestamp
import Dispatch.Proofs.Reports
import Dispatch.Proofs.Contents
import Dispatch.Proofs.Delivery
import Dispatch.Proofs.Collecting
import Dispatch.Proofs.GeneratedNames
import Dispatch.Proofs.Renormalization
import Dispatch.Proofs.ImageNames
import Dispatch.Proofs.Preparation
import Dispatch.Proofs.Tokens
import Dispatch.Proofs.Addressing
import Dispatch.Proofs.Loading
import Dispatch.Proofs.Building
