import Dispatch.Domain.Label

namespace Dispatch.Domain

open Text

def normalized? (s : List Char) : Option (List Char) := do
  let text := composed (← s.mapM mapped?).flatten
  if text.any isForbidden then none else some text

/-- If one label is written from right to left, the direction of every label counts. -/
def labelsFit (labels : List (List Char)) : Bool :=
  labels.all labelFits && (!labels.any (·.any runsRight) || labels.all directionFits)

def toAscii? (s : List Char) : Option (List Char) := do
  let labels ← (pieces '.' (← normalized? s)).mapM readLabel?
  if labelsFit labels then some (joined '.' (labels.map writeLabel)) else none

end Dispatch.Domain
