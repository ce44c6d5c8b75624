import Dispatch.Text.Split
import Dispatch.Text.Utf8

namespace Dispatch.File

open Text

/-- What a file system takes for a name or a path: any bytes. Text is given to it as UTF-8. -/
abbrev Raw := List UInt8

instance : Coe String Raw := ⟨fun s => Utf8.encode s.toList⟩

/-- A name or a path as text, with replacements for what is none. -/
def shown (s : Raw) : String := String.ofList (Utf8.decodeLossy s)

def slash : UInt8 := '/'.toUInt8

def dot : UInt8 := '.'.toUInt8

inductive Component
  | root
  | here
  | parent
  | name (s : Raw)
  deriving DecidableEq, Repr

def Component.raw : Component → Raw
  | root => [slash]
  | here => [dot]
  | parent => [dot, dot]
  | name s => s

namespace Path

/-- Empty pieces and single dots are no components. -/
def inner (s : Raw) : Option Component :=
  if s = [] || s = [dot] then none
  else if s = [dot, dot] then some .parent
  else some (.name s)

def start (path : Raw) : List Component :=
  if path.head? = some slash then [.root]
  else if (pieces slash path).head? = some [dot] then [.here]
  else []

def components (path : Raw) : List Component := start path ++ (pieces slash path).filterMap inner

def fileName? (path : Raw) : Option Raw :=
  match (components path).getLast? with
  | some (.name s) => some s
  | _ => none

/-- What follows the last point of a name, where something stands before that point. -/
def extensionOfName (name : Raw) : Option Raw :=
  let ending := afterLast dot name
  if ending.length + 1 < name.length then some ending else none

def extension? (path : Raw) : Option Raw := (fileName? path).bind extensionOfName

def join (path name : Raw) : Raw :=
  if path = [] || path.getLast? = some slash then path ++ name else path ++ slash :: name

/-- The components of a path that follow those of `root`, where the path starts with those. -/
def below? (root path : Raw) : Option (List Component) :=
  if (components root).isPrefixOf (components path) then
    some ((components path).drop (components root).length)
  else none

end Path

end Dispatch.File
