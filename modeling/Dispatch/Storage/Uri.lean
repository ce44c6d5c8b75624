import Dispatch.Text.Split

namespace Dispatch.Storage

open Text

def scheme : List Char := ['s', '3']

def splitScheme : List Char → Option (List Char × List Char)
  | ':' :: '/' :: '/' :: rest => some ([], rest)
  | c :: rest => (splitScheme rest).map fun p => (c :: p.1, p.2)
  | [] => none

/-- The scheme is compared without the case of its letters. -/
def isRemoteText (s : List Char) : Bool :=
  match splitScheme s with
  | some (before, _) => sameLetters before scheme
  | none => false

def addSegment (uri segment : List Char) : List Char :=
  match trim '/' segment with
  | [] => uri
  | s => uri ++ '/' :: s

def remoteText (bucket : List Char) (segments : List (List Char)) : List Char :=
  segments.foldl addSegment (scheme ++ [':', '/', '/'] ++ trim '/' bucket)

/-- The bucket runs to the first slash after the scheme and is not empty; the key is what follows,
without the slashes around it. -/
def splitRemoteText (s : List Char) : Option (List Char × List Char) :=
  if isRemoteText s then
    match splitScheme s with
    | none => none
    | some (_, rest) =>
        let (bucket, key) := match splitOnce '/' rest with
          | some (bucket, key) => (bucket, trim '/' key)
          | none => (rest, [])
        if bucket = [] then none else some (bucket, key)
  else none

def isRemote (uri : String) : Bool := isRemoteText uri.toList

def remoteUri (bucket : String) (segments : List String) : String :=
  String.ofList (remoteText bucket.toList (segments.map String.toList))

def splitRemote? (uri : String) : Option (String × String) :=
  (splitRemoteText uri.toList).map fun p => (String.ofList p.1, String.ofList p.2)

end Dispatch.Storage
