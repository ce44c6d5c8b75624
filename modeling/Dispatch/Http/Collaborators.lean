import Dispatch.Http.Client
import Dispatch.Http.ObjectStore
import Dispatch.Service.Activity
import Dispatch.Settings

namespace Dispatch.Http

open File Time

structure World (τ : Type) where
  time : Instant
  link : Link τ

variable {τ : Type}

def World.carry {α : Type} (x : Exchange τ α) (w : World τ) : Except ClientError α × World τ :=
  match x w.link with
  | (r, link) => (r, { w with link })

def answer (t : Transport τ) (client : Client) (store : ObjectStore) (fs : System) :
    (c : Call) → World τ → c.Reply × World τ
  | .defaultBucket => World.carry (client.defaultBucket t)
  | .upload path uri => World.carry (store.upload t fs path uri)
  | .create r => World.carry (client.create t r)
  | .describe job => World.carry (client.describe t job)
  | .stop job => World.carry (client.stop t job)
  | .logs job token => World.carry (client.logs t job token)

/-- The collaborators that settings name, if the settings are valid. -/
def collaborators (t : Transport τ) (fs : System) (s : Settings) :
    Except SettingsError (Collaborators (World τ)) := do
  s.validate
  return {
    clock := fun w => (w.time, w)
    answer := answer t (.ofEndpoint s.endpoint) (.ofEndpoint s.storageEndpoint) fs }

end Dispatch.Http
