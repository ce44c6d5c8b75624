import Dispatch.File.Path

namespace Dispatch.File

inductive Node
  | file (content : List UInt8)
  | link (target : Raw)
  | directory (entries : List (Raw × Node))
  deriving Inhabited

abbrev Place := List Raw

namespace Node

def isDirectory : Node → Bool
  | .directory _ => true
  | _ => false

def isFile : Node → Bool
  | .file _ => true
  | _ => false

def child? (n : Node) (name : Raw) : Option Node :=
  match n with
  | .directory entries => entries.lookup name
  | _ => none

def at? : Node → Place → Option Node
  | n, [] => some n
  | n, name :: rest => (n.child? name).bind (at? · rest)

mutual

/-- Every node below that is not itself a directory, with its place. Links are not followed. -/
def leaves : Node → List (Place × Node)
  | .file content => [([], .file content)]
  | .link target => [([], .link target)]
  | .directory entries => leavesOf entries

def leavesOf : List (Raw × Node) → List (Place × Node)
  | [] => []
  | (name, n) :: rest => (leaves n).map (fun p => (name :: p.1, p.2)) ++ leavesOf rest

end

mutual

/-- The places of all directories below, the node itself among them. Links are not followed. -/
def directories : Node → List Place
  | .directory entries => [] :: directoriesOf entries
  | _ => []

def directoriesOf : List (Raw × Node) → List Place
  | [] => []
  | (name, n) :: rest => (directories n).map (name :: ·) ++ directoriesOf rest

end

def putEntry (name : Raw) (n : Node) : List (Raw × Node) → List (Raw × Node)
  | [] => [(name, n)]
  | e :: es => if e.1 = name then (name, n) :: es else e :: putEntry name n es

def put (n : Node) : Place → Node → Node
  | [], new => new
  | name :: rest, new =>
      match n with
      | .directory entries =>
          .directory (putEntry name (put ((entries.lookup name).getD (.directory [])) rest new) entries)
      | other => other

end Node

end Dispatch.File
