import Dispatch.Error
import Dispatch.File.System

namespace Dispatch.File

structure Listed where
  names : Place
  path : Raw
  deriving DecidableEq, Repr

def pathBelow (root : Raw) (names : Place) : Raw := names.foldl Path.join root

/-- Places in order: the first names that differ decide. -/
def Place.isAtMost : Place → Place → Bool
  | [], _ => true
  | _ :: _, [] => false
  | a :: as, b :: bs => if a = b then isAtMost as bs else a < b

def listTree (root : Raw) (n : Node) : List Listed :=
  let places := (n.leaves.map (·.1)).mergeSort Place.isAtMost
  places.map fun names => ⟨names, pathBelow root names⟩

/-- In what order directories yield their entries: each in one of its own. -/
structure Order where
  arrange : Raw → List (Raw × Node) → List (Raw × Node)
  perm (path : Raw) (entries : List (Raw × Node)) : (arrange path entries).Perm entries

def Order.stored : Order := ⟨fun _ entries => entries, fun _ _ => .refl _⟩

/-- A listing under way: the directories still to be read, the next one first, and the files found. -/
structure Walk where
  pending : List Raw
  files : List Listed
  deriving DecidableEq, Repr

/-- An entry of the directory at `dir`. A directory is kept for later; anything else is a file, named by the
part of its path behind the root. -/
def Walk.meet (root dir : Raw) (w : Walk) (entry : Raw × Node) : Walk :=
  let path := Path.join dir entry.1
  if entry.2.isDirectory then { w with pending := path :: w.pending }
  else
    match Path.below? root path with
    | some cs => { w with files := w.files ++ [⟨cs.map Component.raw, path⟩] }
    | none => w

def walk (order : Order) (fs : System) (root : Raw) : Nat → Walk → Except ClientError Walk
  | 0, w => .ok w
  | rounds + 1, w =>
      match w.pending with
      | [] => .ok w
      | dir :: rest => do
          let entries ← (fs.entries dir).mapError (ClientError.io dir)
          walk order fs root rounds
            ((order.arrange dir entries).foldl (Walk.meet root dir) { w with pending := rest })

def listFilesIn (order : Order) (fs : System) (root : Raw) : Except ClientError (List Listed) :=
  match fs.lookup root with
  | .error e => .error (.io root e)
  | .ok n =>
      if n.isDirectory then do
        let w ← walk order fs root n.directories.length ⟨[root], []⟩
        return w.files.mergeSort fun f g => Place.isAtMost f.names g.names
      else
        match Path.fileName? root with
        | some name => .ok [⟨[name], root⟩]
        | none => .error (.invalidRequest (.namelessFile (shown root)))

def listFiles (fs : System) (root : Raw) : Except ClientError (List Listed) :=
  listFilesIn .stored fs root

end Dispatch.File
