import Dispatch.File.Listing
import Dispatch.Http.Transport
import Dispatch.Storage.Uri

namespace Dispatch.Http

open File Storage Text

/-- The endpoint of the store, without slashes at its end. -/
structure ObjectStore where
  base : List Char
  deriving DecidableEq, Repr

namespace ObjectStore

variable {τ : Type} (t : Transport τ) (store : ObjectStore)

def ofEndpoint (endpoint : String) : ObjectStore := ⟨trimEnd '/' endpoint.toList⟩

def objectUrl (bucket key : String) : Except ClientError Url :=
  match Url.parse store.base with
  | .error e => .error (.invalidRequest (.badEndpoint (String.ofList store.base) e))
  | .ok url =>
      match url.extend? (bucket.toList :: pieces '/' key.toList) with
      | none => .error (.invalidRequest (.opaqueEndpoint (String.ofList store.base)))
      | some url => .ok url

def putObject (bucket key : String) (content : List UInt8) : Exchange τ Unit := do
  let url ← (store.objectUrl bucket key : Except ClientError Url)
  let response ← send t { method := .put, url, body := content }
  checkStatus response

/-- A key under a prefix: the names on the way to a file, as text and between slashes. -/
def objectKey (leading : String) (names : Place) : String :=
  let key := String.ofList (joined '/' (names.map Utf8.decodeLossy))
  if leading = "" then key else leading ++ "/" ++ key

def putFiles (fs : System) (bucket leading : String) : List Listed → Exchange τ Unit
  | [] => pure ()
  | f :: rest => do
      let content ← ((fs.read f.path).mapError (ClientError.io f.path) : Except ClientError _)
      store.putObject t bucket (objectKey leading f.names) content
      putFiles fs bucket leading rest

def upload (fs : System) (path : Raw) (uri : String) : Exchange τ String := do
  match splitRemote? uri with
  | none => throw (.invalidRequest (.notRemote uri))
  | some (bucket, leading) =>
      if isRemote (shown path) then throw (.invalidRequest (.remoteSource (shown path)))
      let files ← (listFiles fs path : Except ClientError _)
      store.putFiles t fs bucket leading files
      return uri

end ObjectStore

end Dispatch.Http
