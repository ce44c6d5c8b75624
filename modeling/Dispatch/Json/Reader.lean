import Dispatch.Json.Basic
import Dispatch.Text.Hex

namespace Dispatch.Json

open Text

abbrev Reader (α : Type) := List Char → Option (α × List Char)

def isBlank (c : Char) : Bool := c = ' ' || c = '\n' || c = '\t' || c = '\r'

def skipBlanks (s : List Char) : List Char := s.dropWhile isBlank

def digits (s : List Char) : List Char × List Char := (s.takeWhile Char.isDigit, s.dropWhile Char.isDigit)

def value (ds : List Char) : Nat := Nat.ofDigitChars 10 ds 0

def readMagnitude : Reader Nat
  | '0' :: rest => if (rest.head?.map Char.isDigit).getD false then none else some (0, rest)
  | s =>
      match digits s with
      | ([], _) => none
      | (ds, rest) => some (value ds, rest)

def readFraction : Reader (Option (List Char))
  | '.' :: rest =>
      match digits rest with
      | ([], _) => none
      | (ds, rest) => some (some ds, rest)
  | s => some (none, s)

def readExponent : Reader (Option Int)
  | c :: rest =>
      if c = 'e' || c = 'E' then
        let (negative, rest) := match rest with
          | '-' :: rest => (true, rest)
          | '+' :: rest => (false, rest)
          | rest => (false, rest)
        match digits rest with
        | ([], _) => none
        | (ds, rest) => some (some (if negative then -(value ds : Int) else value ds), rest)
      else some (none, c :: rest)
  | [] => some (none, [])

def readUnsigned (negative : Bool) : Reader Number := fun s => do
  let (m, s) ← readMagnitude s
  let (fraction, s) ← readFraction s
  let (exponent, s) ← readExponent s
  match fraction, exponent with
  | none, none => some (.integer negative m, s)
  | _, _ => some (.decimal negative m (fraction.getD []) (exponent.getD 0), s)

def readNumber : Reader Number
  | '-' :: rest => readUnsigned true rest
  | s => readUnsigned false s

/-- What a string literal is made of: characters, and escaped code units of four hexadecimal digits. -/
inductive Piece
  | char (c : Char)
  | unit (n : Nat)
  deriving DecidableEq, Repr

def unit? (a b c d : Char) : Option Nat := do
  return (((← hexValue? a) * 16 + (← hexValue? b)) * 16 + (← hexValue? c)) * 16 + (← hexValue? d)

def escaped? (c : Char) : Option Char :=
  if c = '"' || c = '\\' || c = '/' then some c
  else if c = 'b' then some '\x08'
  else if c = 'f' then some '\x0c'
  else if c = 'n' then some '\n'
  else if c = 'r' then some '\r'
  else if c = 't' then some '\t'
  else none

def readPieces : Reader (List Piece)
  | [] => none
  | '"' :: rest => some ([], rest)
  | '\\' :: 'u' :: a :: b :: c :: d :: rest => do
      let n ← unit? a b c d
      let (ps, rest) ← readPieces rest
      return (.unit n :: ps, rest)
  | '\\' :: c :: rest => do
      let e ← escaped? c
      let (ps, rest) ← readPieces rest
      return (.char e :: ps, rest)
  | c :: rest =>
      if c.toNat < 0x20 then none
      else do
        let (ps, rest) ← readPieces rest
        return (.char c :: ps, rest)

def isHighSurrogate (n : Nat) : Bool := 0xD800 ≤ n && n < 0xDC00

def isLowSurrogate (n : Nat) : Bool := 0xDC00 ≤ n && n < 0xE000

/-- The text the pieces denote: a high unit must be followed by a low one, and the two are one
character. -/
def denote : List Piece → Option (List Char)
  | [] => some []
  | .char c :: rest => (denote rest).map (c :: ·)
  | .unit n :: .unit m :: rest =>
      if isHighSurrogate n then
        if isLowSurrogate m then
          (denote rest).map (Char.ofNat (0x10000 + (n - 0xD800) * 0x400 + (m - 0xDC00)) :: ·)
        else none
      else if isLowSurrogate n then none
      else (denote (.unit m :: rest)).map (Char.ofNat n :: ·)
  | .unit n :: rest =>
      if isHighSurrogate n || isLowSurrogate n then none
      else (denote rest).map (Char.ofNat n :: ·)

def readLiteral : Reader Literal := fun s => do
  let (ps, rest) ← readPieces s
  return ((denote ps).map String.ofList, rest)

def expect (c : Char) : List Char → Option (List Char)
  | x :: rest => if x = c then some rest else none
  | [] => none

mutual

/-- Reads one value; `fuel` bounds how many values and members may be entered. -/
def readValue : Nat → Reader Json
  | 0, _ => none
  | fuel + 1, s =>
      match skipBlanks s with
      | 'n' :: 'u' :: 'l' :: 'l' :: rest => some (.null, rest)
      | 't' :: 'r' :: 'u' :: 'e' :: rest => some (.bool true, rest)
      | 'f' :: 'a' :: 'l' :: 's' :: 'e' :: rest => some (.bool false, rest)
      | '"' :: rest => (readLiteral rest).map fun p => (.string p.1, p.2)
      | '[' :: rest =>
          match skipBlanks rest with
          | ']' :: rest => some (.array [], rest)
          | rest => do
              let (j, rest) ← readValue fuel rest
              let (js, rest) ← readItems fuel rest
              return (.array (j :: js), rest)
      | '{' :: rest =>
          match skipBlanks rest with
          | '}' :: rest => some (.object [], rest)
          | rest => do
              let (m, rest) ← readMember fuel rest
              let (ms, rest) ← readMembers fuel rest
              return (.object (m :: ms), rest)
      | rest => (readNumber rest).map fun p => (.number p.1, p.2)

def readItems : Nat → Reader (List Json)
  | 0, _ => none
  | fuel + 1, s =>
      match skipBlanks s with
      | ']' :: rest => some ([], rest)
      | ',' :: rest => do
          let (j, rest) ← readValue fuel rest
          let (js, rest) ← readItems fuel rest
          return (j :: js, rest)
      | _ => none

def readMember : Nat → Reader (Literal × Json)
  | 0, _ => none
  | fuel + 1, s => do
      let rest ← expect '"' (skipBlanks s)
      let (name, rest) ← readLiteral rest
      let rest ← expect ':' (skipBlanks rest)
      let (j, rest) ← readValue fuel rest
      return ((name, j), rest)

def readMembers : Nat → Reader (List (Literal × Json))
  | 0, _ => none
  | fuel + 1, s =>
      match skipBlanks s with
      | '}' :: rest => some ([], rest)
      | ',' :: rest => do
          let (m, rest) ← readMember fuel rest
          let (ms, rest) ← readMembers fuel rest
          return (m :: ms, rest)
      | _ => none

end

/-- Twice the length of the text is more than the values and members it can hold. -/
def parseChars? (s : List Char) : Option Json :=
  match readValue (2 * s.length + 2) s with
  | some (j, rest) => if skipBlanks rest = [] then some j else none
  | none => none

def parse? (s : String) : Option Json := parseChars? s.toList

end Dispatch.Json
