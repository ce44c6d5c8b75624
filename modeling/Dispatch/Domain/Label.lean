import Dispatch.Character.Combining
import Dispatch.Character.Direction
import Dispatch.Character.Joining
import Dispatch.Domain.Mapping.Basic
import Dispatch.Domain.Punycode
import Dispatch.Text.Composed

namespace Dispatch.Domain

open Character Text

def isReserved (c : Char) : Bool :=
  ['\x00', '\t', '\n', '\r', ' ', '#', '/', ':', '<', '>', '?', '@', '[', '\\', ']', '^', '|'].contains c

def isForbidden (c : Char) : Bool := isReserved c || c.toNat < 0x20 || c = '%' || c = '\x7f'

def isAscii (s : List Char) : Bool := s.all (·.toNat < 0x80)

def isStable (c : Char) : Bool := mapped? c = some [c] && !isForbidden c && c ≠ '.'

/-- The label behind its ASCII form, which must be one that could have been written that way. -/
def decodeLabel? (code : List Char) : Option (List Char) := do
  if 2000 < code.length then none
  else
    let s ← Punycode.decode? code
    if !isAscii s && s.all isStable && composed s = s then some s else none

def readLabel? : List Char → Option (List Char)
  | 'x' :: 'n' :: '-' :: '-' :: code => decodeLabel? code
  | s => some s

def writeLabel (s : List Char) : List Char :=
  if isAscii s then s else ['x', 'n', '-', '-'] ++ Punycode.encode s

def joinsAcross (before after : List Char) : Bool :=
  (before.dropWhile isTransparent).head?.any joinsNext &&
    (after.dropWhile isTransparent).head?.any joinsPrevious

/-- A joiner follows a virama; one that keeps letters apart may also stand where they would join. -/
def joinerFits (before : List Char) (c : Char) (after : List Char) : Bool :=
  before.head?.any isVirama || (c = '\u200c' && before ≠ [] && joinsAcross before after)

def joinersFit : List Char → List Char → Bool
  | _, [] => true
  | before, c :: after =>
      (!isJoiner c || joinerFits before c after) && joinersFit (c :: before) after

def runsRight (c : Char) : Bool := direction c = .right || direction c = .arabicNumber

/-- A label is written in the direction of its first character throughout, and ends in a letter or a
number, marks apart. From right to left it has numbers of one kind. -/
def directionFits : List Char → Bool
  | [] => true
  | c :: rest =>
      let others := (rest.map direction).reverse.dropWhile (· = .mark)
      let endsIn (ds : List Direction) : Bool := others.head?.all ds.contains
      match direction c with
      | .left =>
          !others.contains .right && !others.contains .arabicNumber && endsIn [.left, .europeanNumber]
      | .right =>
          !others.contains .left && endsIn [.right, .europeanNumber, .arabicNumber] &&
            !(others.contains .europeanNumber && others.contains .arabicNumber)
      | _ => false

/-- A label does not start with a mark, and its joiners have something to join. Beyond ASCII it has at
most a thousand characters. -/
def labelFits (s : List Char) : Bool :=
  !s.head?.any isMark && joinersFit [] s && (isAscii s || s.length ≤ 1000)

end Dispatch.Domain
