import Dispatch.Json.Basic

namespace Dispatch.Json

def hexDigit (n : Nat) : Char := Nat.digitChar n

def escapeChar (c : Char) : List Char :=
  if c = '"' then ['\\', '"']
  else if c = '\\' then ['\\', '\\']
  else if c = '\n' then ['\\', 'n']
  else if c = '\r' then ['\\', 'r']
  else if c = '\t' then ['\\', 't']
  else if c = '\x08' then ['\\', 'b']
  else if c = '\x0c' then ['\\', 'f']
  else if c.toNat < 0x20 then ['\\', 'u', '0', '0', hexDigit (c.toNat / 16), hexDigit (c.toNat % 16)]
  else [c]

/-- A literal that denotes no text is written as one half of a surrogate pair. -/
def printLiteral : Literal → List Char
  | some s => '"' :: s.toList.flatMap escapeChar ++ ['"']
  | none => ['"', '\\', 'u', 'd', '8', '0', '0', '"']

def printSign (negative : Bool) : List Char := if negative then ['-'] else []

def printInt : Int → List Char
  | .ofNat n => Nat.toDigits 10 n
  | .negSucc n => '-' :: Nat.toDigits 10 (n + 1)

def printFraction (ds : List Char) : List Char := if ds = [] then [] else '.' :: ds

def Number.print : Number → List Char
  | .integer negative m => printSign negative ++ Nat.toDigits 10 m
  | .decimal negative whole fraction e =>
      printSign negative ++ Nat.toDigits 10 whole ++ printFraction fraction ++ 'e' :: printInt e

mutual

def print : Json → List Char
  | .null => ['n', 'u', 'l', 'l']
  | .bool true => ['t', 'r', 'u', 'e']
  | .bool false => ['f', 'a', 'l', 's', 'e']
  | .number n => n.print
  | .string s => printLiteral s
  | .array [] => ['[', ']']
  | .array (j :: rest) => '[' :: print j ++ printItems rest
  | .object [] => ['{', '}']
  | .object ((name, j) :: rest) => '{' :: printLiteral name ++ ':' :: print j ++ printMembers rest

def printItems : List Json → List Char
  | [] => [']']
  | j :: rest => ',' :: print j ++ printItems rest

def printMembers : List (Literal × Json) → List Char
  | [] => ['}']
  | (name, j) :: rest => ',' :: printLiteral name ++ ':' :: print j ++ printMembers rest

end

def render (j : Json) : String := String.ofList j.print

end Dispatch.Json
