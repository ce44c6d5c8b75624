import Dispatch.Character.Combining
import Dispatch.Character.Composition

namespace Dispatch.Text

open Character

/-- Puts a mark before the marks that follow it, unless their class is lower. Letters do not move. -/
def insertMark (c : Char) : List Char → List Char
  | [] => [c]
  | d :: rest =>
      if combiningClass d ≠ 0 && combiningClass d < combiningClass c then d :: insertMark c rest
      else c :: d :: rest

def ordered (s : List Char) : List Char := s.foldr insertMark []

def decomposed (s : List Char) : List Char := ordered (s.flatMap (decompose 4))

/-- Takes up into `base` what composes with it. `kept` holds the marks since then that do not, the last
one first; a mark is out of reach behind another of its class. -/
def composeWith (base : Char) (kept : List Char) : List Char → List Char
  | [] => base :: kept.reverse
  | c :: rest =>
      let reachable := match kept with
        | [] => true
        | d :: _ => combiningClass d < combiningClass c
      match if reachable then compose? base c else none with
      | some made => composeWith made kept rest
      | none =>
          if combiningClass c = 0 then base :: kept.reverse ++ composeWith c [] rest
          else composeWith base (c :: kept) rest

def composed (s : List Char) : List Char :=
  match decomposed s with
  | [] => []
  | c :: rest => composeWith c [] rest

end Dispatch.Text
