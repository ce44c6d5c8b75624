import Dispatch.File.System
import Dispatch.Plan
import Dispatch.Storage.Uri

namespace Dispatch

open Storage File

/-- A script as a caller names it: a file, a directory with a script name, or a remote address. The tag
chooses among interpreters for one language. -/
structure ScriptSource where
  source : String
  scriptName : Option String := none
  tag : String
  deriving DecidableEq, Repr

structure Program where
  script : String
  entrypoint : List String
  deriving DecidableEq, Repr

namespace Program

def mountFolder : String := "/code/"

def channelName : String := "source"

def mountPoint : String := mountFolder ++ channelName

def lastSegment (uri : List Char) : List Char := Text.afterLast '/' (Text.trimEnd '/' uri)

/-- A name that is given counts for remote sources and directories; a file is its own name. -/
def scriptName (fs : System) (source : String) (given : Option String) : Except ValidationError String :=
  if isRemote source then
    .ok (given.getD (String.ofList (lastSegment source.toList)))
  else if fs.isDirectory source then
    match given with
    | some name => .ok name
    | none => .error (.scriptNameMissing source)
  else
    match Path.fileName? source with
    | some name => if fs.isFile source then .ok (shown name) else .error (.sourceMissing source)
    | none => .error (.sourceMissing source)

def interpreterOf (tag : String) : String :=
  if tag = "py3" then "python3" else if tag = "py2" then "python2" else "python"

def interpreter (script tag : String) : Except ValidationError String :=
  if Path.extension? script = some ("py" : Raw) then .ok (interpreterOf tag)
  else if Path.extension? script = some ("sh" : Raw) then .ok "bash"
  else .error (.notAScript script)

def resolve (fs : System) (s : ScriptSource) : Except ValidationError Program := do
  let script ← scriptName fs s.source s.scriptName
  let program ← interpreter script s.tag
  return { script, entrypoint := [program, mountPoint ++ "/" ++ script] }

end Program

namespace ScriptSource

variable {σ : Type} (cs : Collaborators σ)

def ship (s : ScriptSource) (jobName : String) : Activity σ String :=
  if isRemote s.source then pure s.source
  else do
    let bucket ← Activity.defaultBucket cs
    Activity.upload cs s.source (remoteUri bucket [jobName, Program.channelName])

def channel (address : String) : InputDescriptor :=
  { name := some Program.channelName, source := address, destination := Program.mountPoint }

def hook (fs : System) (s : ScriptSource) : Staged σ Unit := do
  let program ← Staged.lift (Activity.ofExcept .validation (Program.resolve fs s))
  let plan ← Staged.plan
  let address ← Staged.lift (s.ship cs plan.jobName)
  Staged.edit fun p =>
    { p with inputs := p.inputs ++ [.descriptor (channel address)], entrypoint := some program.entrypoint }

end ScriptSource

end Dispatch
