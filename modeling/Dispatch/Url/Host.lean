import Dispatch.Domain.Name
import Dispatch.Url.Percent

namespace Dispatch.Url

open Text

inductive Error
  | relative
  | emptyHost
  | invalidName
  | invalidCharacter
  | invalidPort
  | invalidIPv4
  | invalidIPv6
  deriving DecidableEq, Repr

def Error.message : Error → String
  | .relative => "relative URL without a base"
  | .emptyHost => "empty host"
  | .invalidName => "invalid international domain name"
  | .invalidCharacter => "invalid domain character"
  | .invalidPort => "invalid port number"
  | .invalidIPv4 => "invalid IPv4 address"
  | .invalidIPv6 => "invalid IPv6 address"

inductive Host
  | name (s : List Char)
  | ipv4 (address : Nat)
  | ipv6 (pieces : List Nat)
  deriving DecidableEq, Repr

namespace Host

inductive Numeral
  | number (n : Nat)
  | overflow
  | malformed

/-- A number in decimal, in octal after a zero, or in hexadecimal after `0x`. -/
def readNumeral (s : List Char) : Numeral :=
  let (radix, ds) := match s with
    | '0' :: 'x' :: rest => (16, rest)
    | '0' :: 'X' :: rest => (16, rest)
    | '0' :: c :: rest => (8, c :: rest)
    | _ => (10, s)
  if s = [] then .malformed
  else if ds = [] then .number 0
  else
    match ds.mapM fun c => (hexValue? c).filter (· < radix) with
    | none => .malformed
    | some vs =>
        let n := vs.foldl (fun acc v => acc * radix + v) 0
        if n < UInt32.size then .number n else .overflow

def parts (s : List Char) : List (List Char) :=
  let ps := pieces '.' s
  if ps.length > 1 && ps.getLast? = some [] then ps.dropLast else ps

def endsInNumber (s : List Char) : Bool :=
  match (parts s).getLast? with
  | none => false
  | some last =>
      (last ≠ [] && last.all Char.isDigit) ||
        match readNumeral last with
        | .malformed => false
        | _ => true

/-- Every number but the last is one byte; the last fills what is left. -/
def combine : Nat → Nat → List Nat → Option Nat
  | _, _, [] => none
  | acc, left, [n] => if n < Nat.pow 256 left then some (acc * Nat.pow 256 left + n) else none
  | acc, left, n :: rest => if n < 256 then combine (acc * 256 + n) (left - 1) rest else none

def readIPv4 (s : List Char) : Option Nat := do
  let ps := parts s
  if ps.length > 4 then none
  else
    let ns ← ps.mapM fun p => match readNumeral p with
      | .number n => some n
      | _ => none
    combine 0 4 ns

def readGroup (s : List Char) : Option Nat :=
  if s = [] || s.length > 4 then none
  else (s.mapM hexValue?).map fun vs => vs.foldl (fun acc v => acc * 16 + v) 0

def readByte (s : List Char) : Option Nat :=
  if s = [] || s.length > 3 || !s.all Char.isDigit || (s.length > 1 && s.head? = some '0') then none
  else
    let n := Nat.ofDigitChars 10 s 0
    if n < 256 then some n else none

/-- Groups between colons; the last may be four bytes between points, which are two groups. -/
def readGroups : List (List Char) → Option (List Nat)
  | [] => some []
  | [g] =>
      if g.contains '.' then
        match (pieces '.' g).mapM readByte with
        | some [a, b, c, d] => some [a * 256 + b, c * 256 + d]
        | _ => none
      else (readGroup g).map ([·])
  | g :: gs => do
      let n ← readGroup g
      let ns ← readGroups gs
      return n :: ns

def groupsOf (s : List Char) : Option (List Nat) :=
  if s = [] then some [] else readGroups (pieces ':' s)

def splitDoubleColon : List Char → Option (List Char × List Char)
  | ':' :: ':' :: rest => some ([], rest)
  | c :: rest => (splitDoubleColon rest).map fun p => (c :: p.1, p.2)
  | [] => none

def readIPv6 (s : List Char) : Option (List Nat) :=
  match splitDoubleColon s with
  | none => do
      let ns ← readGroups (pieces ':' s)
      if ns.length = 8 then some ns else none
  | some (left, right) => do
      if left.contains '.' then none
      else
        let a ← groupsOf left
        let b ← groupsOf right
        if a.length + b.length ≤ 7 then
          some (a ++ List.replicate (8 - a.length - b.length) 0 ++ b)
        else none

def readBracketed (s : List Char) : Except Error Host :=
  if s.length > 1 && s.getLast? = some ']' then
    match readIPv6 (s.drop 1).dropLast with
    | some ns => .ok (.ipv6 ns)
    | none => .error .invalidIPv6
  else .error .invalidIPv6

/-- Hosts of the schemes with rules for them: a name, percent signs resolved, or an address. -/
def read (s : List Char) : Except Error Host :=
  if s.head? = some '[' then readBracketed s
  else
    match (Utf8.decode? (Percent.decode s)).bind Domain.toAscii? with
    | none => .error .invalidName
    | some domain =>
        if domain = [] then .error .emptyHost
        else if endsInNumber domain then
          match readIPv4 domain with
          | some n => .ok (.ipv4 n)
          | none => .error .invalidIPv4
        else .ok (.name domain)

def readOpaque (s : List Char) : Except Error Host :=
  if s.head? = some '[' then readBracketed s
  else if s.any Domain.isReserved then .error .invalidCharacter
  else .ok (.name (Percent.encode Percent.escapesControl s))

def writeIPv4 (n : Nat) : List Char :=
  joined '.' ([n / 16777216, n / 65536 % 256, n / 256 % 256, n % 256].map (Nat.toDigits 10))

def zeros : List Nat → Nat
  | 0 :: rest => zeros rest + 1
  | _ => 0

def longestZeros : Nat → List Nat → Nat × Nat
  | _, [] => (0, 0)
  | start, n :: rest =>
      let here := zeros (n :: rest)
      let later := longestZeros (start + 1) rest
      if here ≥ later.2 then (start, here) else later

def writeGroups (ns : List Nat) : List Char := joined ':' (ns.map (Nat.toDigits 16))

/-- Two zeros or more are left out, once. -/
def writeIPv6 (ns : List Nat) : List Char :=
  let (start, count) := longestZeros 0 ns
  if count < 2 then writeGroups ns
  else writeGroups (ns.take start) ++ [':', ':'] ++ writeGroups (ns.drop (start + count))

def write : Host → List Char
  | .name s => s
  | .ipv4 n => writeIPv4 n
  | .ipv6 ns => '[' :: writeIPv6 ns ++ [']']

end Host

end Dispatch.Url
