import Dispatch.Http.Transport
import Dispatch.Wire.Job
import Dispatch.Wire.Request

namespace Dispatch.Http

open Text

/-- The endpoint of the service, without slashes at its end. -/
structure Client where
  base : List Char
  deriving DecidableEq, Repr

namespace Client

variable {τ : Type} (t : Transport τ) (c : Client)

def ofEndpoint (endpoint : String) : Client := ⟨trimEnd '/' endpoint.toList⟩

def baseUrl : String := String.ofList c.base

def jobsPath : List Char := "/processing-jobs".toList

def jobPath (job : String) : List Char := jobsPath ++ '/' :: job.toList

/-- The endpoint and the path are read as one text, so a job name acts in it as any text of a URL would. -/
def url (path : List Char) : Except Url.Error Url := Url.parse (c.base ++ path)

def request (method : Method) (path : List Char) (finish : Message → Message) : Exchange τ Response :=
  match c.url path with
  | .ok url => send t (finish { method, url })
  | .error e => throw (.unreachable e.message)

def create (r : Request) : Exchange τ Unit := do
  let response ← c.request t .post jobsPath fun m =>
    { m with contentType := some "application/json", body := Utf8.encode r.toJson.print }
  checkStatus response

def named (job : String) {α : Type} : Except ClientError α → Except ClientError α
  | .error e => if e.isNotFound then .error (.notFound job) else .error e
  | .ok a => .ok a

def describe (job : String) : Exchange τ JobDescription := do
  let response ← c.request t .get (jobPath job) id
  named job (readBody JobDescription.ofJson? response)

def stop (job : String) : Exchange τ Unit := do
  let response ← c.request t .post (jobPath job ++ "/stop".toList) id
  checkStatus response

def withToken (token : Option String) (m : Message) : Message :=
  match token with
  | none => m
  | some s => { m with url := m.url.addPair ("next_token".toList, s.toList) }

def logs (job : String) (token : Option String) : Exchange τ LogPage := do
  let response ← c.request t .get (jobPath job ++ "/logs".toList) (withToken token)
  readBody LogPage.ofJson? response

def bucketOfJson? (j : Json) : Option String := do
  let fs ← Json.fields? [⟨"bucket", false⟩] j
  fs.required? "bucket" Json.text?

def defaultBucket : Exchange τ String := do
  let response ← c.request t .get "/storage/default-bucket".toList id
  readBody bucketOfJson? response

end Client

end Dispatch.Http
