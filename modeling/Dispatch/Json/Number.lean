namespace Dispatch.Json

/-- Digits alone, or digits with more digits behind a point or a power of ten. Minus zero is not zero. -/
inductive Number
  | integer (negative : Bool) (magnitude : Nat)
  | decimal (negative : Bool) (whole : Nat) (fraction : List Char) (exponent : Int)
  deriving DecidableEq, Repr, Inhabited

namespace Number

def takeUp (m : Nat) : List Char → Nat × Nat
  | [] => (m, 0)
  | d :: ds =>
      let n := m * 10 + (d.toNat - '0'.toNat)
      if n < UInt64.size then
        let (n, count) := takeUp n ds
        (n, count + 1)
      else (m, 0)

/-- The digits taken up, and the power of ten that goes with them. Digits before the point that find no
place count as zeros, digits behind it do not count. -/
def significand (whole : Nat) (fraction : List Char) (exponent : Int) : Nat × Int :=
  let ds := Nat.toDigits 10 whole
  let (m, count) := takeUp 0 ds
  let (m, places) := takeUp m fraction
  (m, exponent + (ds.length - count : Nat) - places)

/-- The nearest number of 53 significant bits; of two that are equally near, the even one. -/
def rounded (n : Nat) : Nat :=
  let unit := Nat.pow 2 (n.log2 + 1 - 53)
  let quotient := n / unit
  let remainder := n % unit
  if unit < 2 * remainder || (unit = 2 * remainder && quotient % 2 = 1) then (quotient + 1) * unit
  else quotient * unit

def roundingLimit : Nat := Nat.pow 2 1024 - Nat.pow 2 970

/-- The significand and the power of ten are doubles, each rounded, and so is their product. No double
is a power of ten beyond 308. -/
def scaledIsFinite (m : Nat) (exponent : Int) : Bool :=
  if m = 0 || exponent < 0 then true
  else if 308 < exponent then false
  else rounded m * rounded (Nat.pow 10 exponent.toNat) < roundingLimit

def isFinite : Number → Bool
  | .integer _ n =>
      let (m, e) := significand n [] 0
      scaledIsFinite m e
  | .decimal _ whole fraction exponent =>
      let (m, e) := significand whole fraction exponent
      scaledIsFinite m e

end Number

end Dispatch.Json
