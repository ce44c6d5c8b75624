import Dispatch.Channel.Basic
import Dispatch.File.System
import Dispatch.Url.Host

namespace Dispatch

open Json (Named)

/-- A fault found before anything is sent. -/
inductive ValidationError
  | compressedNotStreamed (channel : String) (mode : Storage.InputMode)
  | scriptNameMissing (directory : String)
  | sourceMissing (source : String)
  | notAScript (name : String)
  | other (message : String)
  deriving DecidableEq, Repr

def ValidationError.message : ValidationError → String
  | .compressedNotStreamed channel mode =>
      "Input '" ++ channel ++ "': data can only be gzipped when the input mode is Pipe (got " ++
        Named.name mode ++ ")"
  | .scriptNameMissing directory =>
      "script_name is required when source '" ++ directory ++ "' is a directory"
  | .sourceMissing source =>
      "source '" ++ source ++ "' is not a remote URI and the path does not exist"
  | .notAScript name =>
      "script '" ++ name ++
        "' must be a .py or .sh file; use Processor with a custom entrypoint for other programs"
  | .other message => message

inductive RequestFault
  | notRemote (uri : String)
  | remoteSource (path : String)
  | namelessFile (path : String)
  | badEndpoint (endpoint : String) (cause : Url.Error)
  | opaqueEndpoint (endpoint : String)
  | other (message : String)
  deriving DecidableEq, Repr

def RequestFault.message : RequestFault → String
  | .notRemote uri => "Not a remote storage URI: " ++ uri
  | .remoteSource path => "Upload source must be a local path: " ++ path
  | .namelessFile path => "No file name in " ++ path
  | .badEndpoint endpoint cause => "Invalid storage endpoint " ++ endpoint ++ ": " ++ cause.message
  | .opaqueEndpoint endpoint => "Storage endpoint cannot carry a path: " ++ endpoint
  | .other message => message

inductive ClientError
  | unreachable (reason : String)
  | api (status : UInt16) (message : String)
  | unreadable (message : String)
  | notFound (what : String)
  | invalidRequest (fault : RequestFault)
  | io (path : File.Raw) (cause : File.Error)
  deriving DecidableEq, Repr

namespace ClientError

def message : ClientError → String
  | .unreachable reason => "HTTP request failed: " ++ reason
  | .api status message => "API error (status " ++ toString status.toNat ++ "): " ++ message
  | .unreadable message => "Failed to parse response: " ++ message
  | .notFound what => "Resource not found: " ++ what
  | .invalidRequest fault => "Invalid request: " ++ fault.message
  | .io path cause => "Failed to read " ++ File.shown path ++ ": " ++ cause.message

def isNotFound : ClientError → Bool
  | .notFound _ => true
  | .api status _ => status = 404
  | _ => false

def isRefusal : ClientError → Bool
  | .api status _ => 400 ≤ status && status < 500
  | _ => false

end ClientError

/-- An argument that is not of the kind an operation asks for. Positions count from one. -/
inductive TypeConstraint
  | barePath (position : Nat)
  | other (message : String)
  deriving DecidableEq, Repr

def TypeConstraint.message : TypeConstraint → String
  | .barePath position =>
      "Inputs must be provided as InputDescriptor values, got a bare path at position " ++ toString position
  | .other message => message

inductive ProcessingError
  | typeConstraint (c : TypeConstraint)
  | validation (e : ValidationError)
  | attachUnsupported
  | remote (e : ClientError)
  | jobFailed (jobName reason : String)
  deriving DecidableEq, Repr

namespace ProcessingError

def message : ProcessingError → String
  | .typeConstraint c => "Type constraint violated: " ++ c.message
  | .validation e => "Validation failed: " ++ e.message
  | .attachUnsupported => "Not implemented: attaching to an existing processing job"
  | .remote e => e.message
  | .jobFailed jobName reason => "Processing job " ++ jobName ++ " failed: " ++ reason

def isValidation : ProcessingError → Bool
  | .validation _ => true
  | _ => false

end ProcessingError

end Dispatch
