import Dispatch.Time.Instant
import Dispatch.Text.Blank

namespace Dispatch.Time

open Text

def padded (width n : Nat) : List Char :=
  let ds := Nat.toDigits 10 n
  List.replicate (width - ds.length) '0' ++ ds

/-- Four digits, and a sign in front of them for a year they cannot hold. -/
def yearText (year : Int) : List Char :=
  if year < 0 then '-' :: padded 4 year.natAbs
  else if year > 9999 then '+' :: padded 4 year.natAbs
  else padded 4 year.natAbs

def dateText (d : Date) : List Char :=
  yearText d.year ++ '-' :: padded 2 d.month ++ '-' :: padded 2 d.day

def fractionText (nanos : Nat) : List Char :=
  if nanos = 0 then []
  else if nanos % 1000000 = 0 then '.' :: padded 3 (nanos / 1000000)
  else if nanos % 1000 = 0 then '.' :: padded 6 (nanos / 1000)
  else '.' :: padded 9 nanos

def clockText (r : Reading) : List Char :=
  padded 2 r.hour ++ ':' :: padded 2 r.minute ++ ':' :: padded 2 r.second ++ fractionText r.nanos

def Instant.stamp (t : Instant) : List Char :=
  let r := t.reading
  dateText r.date ++ '-' :: padded 2 r.hour ++ '-' :: padded 2 r.minute ++ '-' :: padded 2 r.second ++
    '-' :: padded 3 (r.nanos / 1000000)

/-- The form that is read back: `2024-05-01T12:30:05.123Z`. -/
def Instant.write (t : Instant) : List Char :=
  dateText t.reading.date ++ 'T' :: clockText t.reading ++ ['Z']

def Instant.display (t : Instant) : List Char :=
  dateText t.reading.date ++ ' ' :: clockText t.reading ++ [' ', 'U', 'T', 'C']

def readNumber (limit : Nat) (s : List Char) : Option (Nat × List Char) :=
  let ds := (s.take limit).takeWhile Char.isDigit
  if ds = [] then none else some (Nat.ofDigitChars 10 ds 0, s.drop ds.length)

def readYear (s : List Char) : Option (Int × List Char) :=
  match skipBlanks s with
  | '-' :: rest => (readNumber rest.length rest).map fun p => (-(p.1 : Int), p.2)
  | '+' :: rest => (readNumber rest.length rest).map fun p => (p.1, p.2)
  | rest => (readNumber 4 rest).map fun p => (p.1, p.2)

def readPair (s : List Char) : Option (Nat × List Char) := readNumber 2 (skipBlanks s)

def readMark (c : Char) (s : List Char) : Option (List Char) :=
  match skipBlanks s with
  | x :: rest => if x = c then some rest else none
  | [] => none

def readDate (s : List Char) : Option (Date × List Char) := do
  let (year, s) ← readYear s
  let s ← readMark '-' s
  let (month, s) ← readPair s
  let s ← readMark '-' s
  let (day, s) ← readPair s
  return (⟨year, month, day⟩, s)

/-- The fraction of a second in nanoseconds: digits after the ninth are passed over. -/
def readFraction : List Char → Option (Nat × List Char)
  | '.' :: rest => do
      let (n, left) ← readNumber 9 rest
      return (n * Nat.pow 10 (9 - (rest.length - left.length)), left.dropWhile Char.isDigit)
  | s => some (0, s)

def readClock (s : List Char) : Option ((Nat × Nat × Nat × Nat) × List Char) := do
  let (hour, s) ← readPair s
  let s ← readMark ':' s
  let (minute, s) ← readPair s
  let s ← readMark ':' s
  let (second, s) ← readPair s
  let (nanos, s) ← readFraction s
  return ((hour, minute, second, nanos), s)

def readTwo : List Char → Option (Nat × List Char)
  | a :: b :: rest =>
      if a.isDigit && b.isDigit then some (Nat.ofDigitChars 10 [a, b] 0, rest) else none
  | _ => none

/-- Minutes ahead of UTC: `Z`, `UTC`, or a sign, hours and minutes. -/
def readOffset (s : List Char) : Option (Int × List Char) :=
  match s with
  | [] => none
  | c :: rest =>
      if c = 'Z' || c = 'z' then some (0, rest)
      else if (s.take 3).map Char.toUpper = ['U', 'T', 'C'] then some (0, s.drop 3)
      else do
        let sign : Int ← if c = '+' then some 1 else if c = '-' || c = '\u2212' then some (-1) else none
        let (hours, s) ← readTwo rest
        let (minutes, s) ← readTwo (s.dropWhile fun x => x = ':' || isBlank x)
        if hours < 24 && minutes < 60 then return (sign * (hours * 60 + minutes : Nat), s) else none

def readSeparator : List Char → Option (List Char)
  | c :: rest => if c = 'T' || c = 't' || c = ' ' then some rest else none
  | [] => none

def Instant.read? (s : List Char) : Option Instant := do
  let (date, s) ← readDate s
  let s ← readSeparator s
  let ((hour, minute, second, nanos), s) ← readClock s
  let (offset, s) ← readOffset (skipBlanks s)
  if skipBlanks s = [] then (⟨date, hour, minute, second, nanos⟩ : Reading).instant? offset else none

end Dispatch.Time
