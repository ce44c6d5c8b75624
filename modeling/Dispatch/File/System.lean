import Dispatch.File.Tree

namespace Dispatch.File

open Text

inductive Error
  | notFound
  | notDirectory
  | isDirectory
  | nameTooLong
  | tooManyLinks
  | nulInName
  | other (message : String)
  deriving DecidableEq, Repr

def Error.message : Error → String
  | .notFound => "No such file or directory (os error 2)"
  | .notDirectory => "Not a directory (os error 20)"
  | .isDirectory => "Is a directory (os error 21)"
  | .nameTooLong => "File name too long (os error 36)"
  | .tooManyLinks => "Too many levels of symbolic links (os error 40)"
  | .nulInName => "file name contained an unexpected NUL byte"
  | .other message => message

structure System where
  root : Node
  workingDirectory : Place

namespace System

def maxName : Nat := 255

/-- With the end mark. -/
def maxPath : Nat := 4096

def maxLinks : Nat := 40

def names (path : Raw) : List Raw := pieces slash path

def start (path : Raw) (place : Place) : Place := if path.head? = some slash then [] else place

/-- Follows the names from a place. An empty name and a single dot stay, a double dot goes up; each of
them, as any other name, asks for a directory to start from. -/
def follow (root : Node) (links : Nat) (place : Place) (todo : List Raw) : Except Error Place :=
  match todo with
  | [] => .ok place
  | name :: rest =>
      if ((root.at? place).map Node.isDirectory).getD false then
        if name = [] || name = [dot] then follow root links place rest
        else if name = [dot, dot] then follow root links place.dropLast rest
        else if name.length > maxName then .error .nameTooLong
        else
          match (root.at? place).bind (·.child? name) with
          | none => .error .notFound
          | some (.link target) =>
              match links with
              | 0 => .error .tooManyLinks
              | links + 1 => follow root links (start target place) (names target ++ rest)
          | some _ => follow root links (place ++ [name]) rest
      else .error .notDirectory
termination_by (links, todo.length)

theorem follow_nil (root : Node) (links : Nat) (place : Place) :
    follow root links place [] = .ok place := by
  rw [follow]

section Step

variable {root n : Node} {links : Nat} {place : Place} {name target : Raw} {rest : List Raw}
  (hplace : ((root.at? place).map Node.isDirectory).getD false = true)

include hplace

theorem follow_stay (hname : name = [] ∨ name = [dot]) :
    follow root links place (name :: rest) = follow root links place rest := by
  rw [follow, if_pos hplace, if_pos (by simpa using hname)]

variable (hname : name ≠ [] ∧ name ≠ [dot] ∧ name ≠ [dot, dot]) (hsize : name.length ≤ maxName)

include hname hsize

theorem follow_child (hchild : (root.at? place).bind (·.child? name) = some n)
    (hlink : ∀ target, n ≠ .link target) :
    follow root links place (name :: rest) = follow root links (place ++ [name]) rest := by
  rw [follow, if_pos hplace, if_neg (by simp [hname]), if_neg hname.2.2, if_neg (Nat.not_lt.2 hsize),
    hchild]
  cases n with
  | link target => exact absurd rfl (hlink target)
  | file content => rfl
  | directory entries => rfl

theorem follow_link (hchild : (root.at? place).bind (·.child? name) = some (.link target)) :
    follow root (links + 1) place (name :: rest) =
      follow root links (start target place) (names target ++ rest) := by
  rw [follow, if_pos hplace, if_neg (by simp [hname]), if_neg hname.2.2, if_neg (Nat.not_lt.2 hsize),
    hchild]

theorem follow_missing (hchild : (root.at? place).bind (·.child? name) = none) :
    follow root links place (name :: rest) = .error .notFound := by
  rw [follow, if_pos hplace, if_neg (by simp [hname]), if_neg hname.2.2, if_neg (Nat.not_lt.2 hsize),
    hchild]

end Step

/-- The place a path leads to, all links followed. -/
def resolve (fs : System) (path : Raw) : Except Error Place :=
  if path.contains 0 then .error .nulInName
  else if path = [] then .error .notFound
  else if path.length ≥ maxPath then .error .nameTooLong
  else follow fs.root maxLinks (start path fs.workingDirectory) (names path)

def lookup (fs : System) (path : Raw) : Except Error Node := do
  let place ← fs.resolve path
  match fs.root.at? place with
  | some n => .ok n
  | none => .error .notFound

def isDirectory (fs : System) (path : Raw) : Bool :=
  match fs.lookup path with
  | .ok n => n.isDirectory
  | .error _ => false

def isFile (fs : System) (path : Raw) : Bool :=
  match fs.lookup path with
  | .ok n => n.isFile
  | .error _ => false

def read (fs : System) (path : Raw) : Except Error (List UInt8) := do
  match ← fs.lookup path with
  | .file content => .ok content
  | .directory _ => .error .isDirectory
  | .link _ => .error .notFound

def entries (fs : System) (path : Raw) : Except Error (List (Raw × Node)) := do
  match ← fs.lookup path with
  | .directory entries => .ok entries
  | _ => .error .notDirectory

def empty : System := ⟨.directory [("work", .directory [])], ["work"]⟩

def splitLast (path : Raw) : Raw × Raw :=
  let name := afterLast slash path
  (path.take (path.length - name.length), name)

def makeWay (root : Node) : Place → List Raw → Except Error (Node × Place)
  | place, [] => .ok (root, place)
  | place, name :: rest =>
      if name = [] || name = [dot] then makeWay root place rest
      else if name = [dot, dot] then makeWay root place.dropLast rest
      else
        match follow root maxLinks place [name] with
        | .ok next => makeWay root next rest
        | .error .notFound =>
            let next := place ++ [name]
            makeWay (root.put next (.directory [])) next rest
        | .error e => .error e

def addDirectory (fs : System) (path : Raw) : Except Error System := do
  let (root, _) ← makeWay fs.root (start path fs.workingDirectory) (names path)
  return { fs with root }

def addNode (fs : System) (path : Raw) (n : Node) : Except Error System := do
  let (way, name) := splitLast path
  let (root, place) ← makeWay fs.root (start path fs.workingDirectory) (names way)
  return { fs with root := root.put (place ++ [name]) n }

def addFile (fs : System) (path : Raw) (content : List UInt8) : Except Error System :=
  match fs.resolve path with
  | .ok place => .ok { fs with root := fs.root.put place (.file content) }
  | .error _ => fs.addNode path (.file content)

def addLink (fs : System) (path target : Raw) : Except Error System := fs.addNode path (.link target)

end System

end Dispatch.File
