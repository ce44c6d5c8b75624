import Dispatch.Url.Form
import Dispatch.Url.Host

namespace Dispatch

open Text

/-- Opaque, as in `mailto:`, or segments, each of which follows a slash. -/
inductive Url.Path
  | text (s : List Char)
  | segments (ss : List (List Char))
  deriving DecidableEq, Repr

structure Url where
  scheme : List Char
  host : Option Url.Host := none
  port : Option Nat := none
  path : Url.Path
  query : Option (List Char) := none
  fragment : Option (List Char) := none
  deriving DecidableEq, Repr

namespace Url

def defaultPort (scheme : String) : Option Nat :=
  if scheme = "http" || scheme = "ws" then some 80
  else if scheme = "https" || scheme = "wss" then some 443
  else if scheme = "ftp" then some 21
  else none

def isSpecial (scheme : String) : Bool := scheme = "file" || (defaultPort scheme).isSome

def isIgnored (c : Char) : Bool := c = '\t' || c = '\n' || c = '\r'

/-- Without controls and spaces at the ends, and without tabs and line ends anywhere. -/
def cleaned (s : List Char) : List Char :=
  let s := s.dropWhile (·.toNat ≤ 0x20)
  let s := (s.reverse.dropWhile (·.toNat ≤ 0x20)).reverse
  s.filter fun c => !isIgnored c

def isSchemeChar (c : Char) : Bool := c.isAlphanum || c = '+' || c = '-' || c = '.'

def readScheme (s : List Char) : Option (List Char × List Char) :=
  match s.head? with
  | none => none
  | some c =>
      if c.isAlpha then
        match s.dropWhile isSchemeChar with
        | ':' :: rest => some ((s.takeWhile isSchemeChar).map Char.toLower, rest)
        | _ => none
      else none

def isSlash (special : Bool) (c : Char) : Bool := c = '/' || (special && c = '\\')

def endsAuthority (special : Bool) (c : Char) : Bool := isSlash special c || c = '?' || c = '#'

def takeHost : Bool → List Char → List Char × List Char
  | _, [] => ([], [])
  | bracketed, c :: rest =>
      if c = ':' && !bracketed then ([], c :: rest)
      else
        let bracketed := if c = '[' then true else if c = ']' then false else bracketed
        let (taken, left) := takeHost bracketed rest
        (c :: taken, left)

def readPort (s : List Char) : Except Error (Option Nat) :=
  if s.all Char.isDigit then
    if s = [] then .ok none
    else
      let n := Nat.ofDigitChars 10 s 0
      if n < UInt16.size then .ok (some n) else .error .invalidPort
  else .error .invalidPort

def hasCredentials (s : List Char) : Bool := s ≠ [] && s ≠ [':']

/-- Host, port, and the text behind them. What stands before the last `@` is dropped. A host may be absent
only where nothing depends on it: where there are no credentials, no port and, after an `@`, no path. A
backslash always ends a port. -/
def readAuthority (scheme : String) (s : List Char) :
    Except Error (Option Host × Option Nat × List Char) := do
  let special := isSpecial scheme
  let authority := s.takeWhile fun c => !endsAuthority special c
  let left := s.dropWhile fun c => !endsAuthority special c
  let (hostText, portText) := takeHost false (afterLast '@' authority)
  if hostText = [] then
    if special || portText ≠ [] || hasCredentials (beforeLast '@' authority) ||
        (authority = ['@'] && left ≠ []) then throw .emptyHost
    else return (none, none, left)
  else
    let host ← if special then Host.read hostText else Host.readOpaque hostText
    let port ← readPort ((portText.drop 1).takeWhile (· ≠ '\\'))
    let left := (portText.drop 1).dropWhile (· ≠ '\\') ++ left
    return (some host, if port = defaultPort scheme then none else port, left)

def isDrive : List Char → Bool
  | [a, b] => a.isAlpha && (b = ':' || b = '|')
  | _ => false

/-- The host of a file, which has no port, and the text behind it. Files on this machine have none. -/
def readFileHost (s : List Char) : Except Error (Option Host × List Char) := do
  let hostText := s.takeWhile fun c => !endsAuthority true c
  if hostText = [] || isDrive hostText then return (none, s)
  else
    let host ← Host.read hostText
    return (if host = .name "localhost".toList then none else some host, s.drop hostText.length)

def isSingleDot (s : List Char) : Bool :=
  s = ['.'] || s.map Char.toLower = ['%', '2', 'e']

def isDoubleDot (s : List Char) : Bool :=
  let s := s.map Char.toLower
  s = ['.', '.'] || s = ['.', '%', '2', 'e'] || s = ['%', '2', 'e', '.'] ||
    s = ['%', '2', 'e', '%', '2', 'e']

/-- Follows the segments one by one: a single dot stays, a double dot goes back by one. A path that ends
in dots ends in a slash. -/
def resolveDots : List (List Char) → List (List Char) → List (List Char)
  | done, [] => done
  | done, s :: rest =>
      let ending := if rest = [] then [[]] else []
      if isDoubleDot s then resolveDots (done.dropLast ++ ending) rest
      else if isSingleDot s then resolveDots (done ++ ending) rest
      else resolveDots (done ++ [s]) rest

def readSegments (special : Bool) (s : List Char) : List (List Char) :=
  let s := if special then s.map fun c => if c = '\\' then '/' else c else s
  resolveDots [] ((pieces '/' s).map (Percent.encode Percent.escapesPath))

def readPath (special : Bool) (s : List Char) : Path :=
  match s with
  | [] => .segments (if special then [[]] else [])
  | c :: rest => .segments (readSegments special (if isSlash special c then rest else c :: rest))

def cutTail (s : List Char) : List Char × Option (List Char) × Option (List Char) :=
  let (s, fragment) := match splitOnce '#' s with
    | some (s, f) => (s, some f)
    | none => (s, none)
  match splitOnce '?' s with
  | some (path, q) => (path, some q, fragment)
  | none => (s, none, fragment)

def complete (scheme : List Char) (host : Option Host) (port : Option Nat) (path : List Char → Path)
    (s : List Char) : Url :=
  let (s, query, fragment) := cutTail s
  let special := isSpecial (String.ofList scheme)
  { scheme, host, port
    path := path s
    query := query.map (Percent.encode (Percent.escapesQuery special))
    fragment := fragment.map (Percent.encode Percent.escapesFragment) }

def readFile (scheme s : List Char) : Except Error Url :=
  match s with
  | a :: b :: rest =>
      if isSlash true a && isSlash true b then do
        let (host, rest) ← readFileHost rest
        return complete scheme host none (readPath true) rest
      else .ok (complete scheme none none (readPath true) s)
  | _ => .ok (complete scheme none none (readPath true) s)

def readHosted (scheme s : List Char) : Except Error Url := do
  let name := String.ofList scheme
  let (host, port, rest) ← readAuthority name s
  return complete scheme host port (readPath (isSpecial name)) rest

def parse (input : List Char) : Except Error Url :=
  match readScheme (cleaned input) with
  | none => .error .relative
  | some (scheme, rest) =>
      let name := String.ofList scheme
      if name = "file" then readFile scheme rest
      else if isSpecial name then readHosted scheme (rest.dropWhile (isSlash true))
      else match rest with
        | '/' :: '/' :: s => readHosted scheme s
        | '/' :: _ => .ok (complete scheme none none (readPath false) rest)
        | _ => .ok (complete scheme none none (fun s => .text (Percent.encode Percent.escapesControl s)) rest)

def parse? (s : String) : Except Error Url := parse s.toList

def Path.write : Path → List Char
  | .text s => s
  | .segments ss => ss.flatMap ('/' :: ·)

/-- The text without the fragment, as a request carries it. -/
def target (u : Url) : List Char :=
  u.scheme ++ ':' ::
    (match u.host with
      | some h => '/' :: '/' :: h.write ++ (match u.port with
          | some p => ':' :: Nat.toDigits 10 p
          | none => [])
      | none => []) ++
    u.path.write ++
    (match u.query with
      | some q => '?' :: q
      | none => [])

def write (u : Url) : List Char :=
  u.target ++ (match u.fragment with
    | some f => '#' :: f
    | none => [])

def isWeb (u : Url) : Bool := u.scheme = "http".toList || u.scheme = "https".toList

/-- Drops one empty segment at the end, unless it is the only one. -/
def popIfEmpty (ss : List (List Char)) : List (List Char) :=
  if ss.length > 1 && ss.getLast? = some [] then ss.dropLast else ss

/-- Adds one segment. Dots are no segments, and the single empty segment of a root path gives way to
the first one added. Tabs and line ends are not kept, so a segment can still turn out to be dots. -/
def push (special : Bool) (ss : List (List Char)) (segment : List Char) : List (List Char) :=
  if segment = ['.'] || segment = ['.', '.'] then ss
  else
    let base := if ss = [[]] then [] else ss
    let s := Percent.encode (Percent.escapesSegment special) (segment.filter fun c => !isIgnored c)
    if isDoubleDot s then base.dropLast ++ [[]]
    else if isSingleDot s then base ++ [[]]
    else base ++ [s]

def extend? (u : Url) (segments : List (List Char)) : Option Url :=
  match u.path with
  | .text _ => none
  | .segments ss =>
      let special := isSpecial (String.ofList u.scheme)
      some { u with path := .segments (segments.foldl (push special) (popIfEmpty ss)) }

def addPair (u : Url) (p : Form.Pair) : Url := { u with query := some (Form.append u.query p) }

end Url

end Dispatch
