namespace Dispatch.Domain.Mapping

/-- Characters and what they stand for: one character; all of a range, the same text; a range, or every
second character of it, with targets in step; characters in a row, one target each. -/
inductive Rule
  | one (c : Nat) (text : List Nat)
  | all (first last : Nat) (text : List Nat)
  | along (first last target : Nat)
  | second (first last target : Nat)
  | each (first : Nat) (targets : List Nat)
  deriving DecidableEq, Repr

def Rule.text? (n : Nat) : Rule → Option (List Nat)
  | .one c text => if n = c then some text else none
  | .all first last text => if first ≤ n && n ≤ last then some text else none
  | .along first last target => if first ≤ n && n ≤ last then some [target + (n - first)] else none
  | .second first last target =>
      if first ≤ n && n ≤ last && (n - first) % 2 = 0 then some [target + (n - first)] else none
  | .each first targets => if first ≤ n then (targets[n - first]?).map ([·]) else none

end Dispatch.Domain.Mapping
