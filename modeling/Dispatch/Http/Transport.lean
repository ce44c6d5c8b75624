import Dispatch.Error
import Dispatch.Json.Printer
import Dispatch.Json.Reader
import Dispatch.Json.Record
import Dispatch.Text.Utf8
import Dispatch.Url.Basic

namespace Dispatch.Http

open Text

inductive Method
  | get
  | post
  | put
  deriving DecidableEq, Repr

structure Message where
  method : Method
  url : Url
  contentType : Option String := none
  body : List UInt8 := []
  deriving DecidableEq, Repr

structure Response where
  status : UInt16
  body : List UInt8 := []
  deriving DecidableEq, Repr

/-- Carries a request, from a state of its own. No response means that no server was reached. -/
structure Transport (τ : Type) where
  send : Message → τ → Option Response × τ

structure Link (τ : Type) where
  state : τ
  sent : List Message := []

abbrev Exchange (τ α : Type) := ExceptT ClientError (StateM (Link τ)) α

def Transport.unreachable : Transport Unit := ⟨fun _ s => (none, s)⟩

/-- A server that answers every request with the next of its responses, and with an error once there are
none. Two kinds of responses never have a body. -/
def Transport.scripted : Transport (List Response) where
  send _
    | [] => (some ⟨500, Utf8.encode "no scripted response".toList⟩, [])
    | r :: rest => (some (if r.status = 204 || r.status = 304 then { r with body := [] } else r), rest)

variable {τ : Type} (t : Transport τ)

/-- Sends one request. Only the web can be reached. Whatever else is asked of the text of a URL before it is
carried, such as a length, or that its host has no braces or quotes, is asked by the transport: what is
refused there gets no response, as what reaches no server. -/
def send (m : Message) : Exchange τ Response := fun l =>
  if m.url.isWeb then
    match t.send m l.state with
    | (some r, state) => (.ok r, { state, sent := l.sent ++ [m] })
    | (none, state) => (.error (.unreachable "error sending request"), { l with state })
  else (.error (.unreachable "builder error"), l)

def Response.isSuccess (r : Response) : Bool := 200 ≤ r.status && r.status < 300

def checkStatus (r : Response) : Except ClientError Unit :=
  if r.isSuccess then .ok ()
  else .error (.api r.status (String.ofList (Utf8.decodeLossy r.body)))

def readBody {α : Type} (decode : Json.Decoder α) (r : Response) : Except ClientError α := do
  checkStatus r
  match ((Utf8.decode? r.body).bind Json.parseChars?).bind decode with
  | some a => .ok a
  | none => .error (.unreadable "Failed to parse JSON response: error decoding response body")

end Dispatch.Http
