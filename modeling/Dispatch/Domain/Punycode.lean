import Dispatch.Text.Split

namespace Dispatch.Domain.Punycode

open Text

def digitValue? (c : Char) : Option Nat :=
  if 'a' ≤ c && c ≤ 'z' then some (c.toNat - 'a'.toNat)
  else if c.isDigit then some (c.toNat - '0'.toNat + 26)
  else none

def digit (n : Nat) : Char :=
  if n < 26 then Char.ofNat ('a'.toNat + n) else Char.ofNat ('0'.toNat + n - 26)

/-- A digit below the threshold is the last one of its number. The thresholds grow from digit to digit,
the later the greater the bias is. -/
def threshold (bias k : Nat) : Nat := min 26 (max 1 (k - bias))

/-- Divides by 35 until at most 455 is left, and adds 36 for each time. -/
def shrink : Nat → Nat → Nat → Nat
  | 0, _, k => k
  | fuel + 1, delta, k =>
      if 455 < delta then shrink fuel (delta / 35) (k + 36) else k + 36 * delta / (delta + 38)

/-- The bias for the next number, after `delta` as the number of the character that makes `count`. -/
def adapt (delta count : Nat) (first : Bool) : Nat :=
  let delta := if first then delta / 700 else delta / 2
  let delta := delta + delta / count
  shrink (delta + 1) delta 0

/-- What has been read: the text so far, the code and the place of the last insertion, and of the number
that is being read the place it started from, and the weight and position of its next digit. -/
structure Reading where
  text : List Char
  code : Nat := 128
  place : Nat := 0
  start : Nat := 0
  bias : Nat := 72
  weight : Nat := 1
  k : Nat := 36

def isCode (n : Nat) : Bool := n < 0xD800 || (0xDFFF < n && n < 0x110000)

def Reading.insert? (r : Reading) : Option Reading :=
  let count := r.text.length + 1
  let code := r.code + r.place / count
  let place := r.place % count
  if isCode code then
    some {
      text := r.text.insertIdx place (Char.ofNat code)
      code
      place := place + 1
      start := place + 1
      bias := adapt (r.place - r.start) count (r.start = 0) }
  else none

def Reading.step? (r : Reading) (c : Char) : Option Reading := do
  let d ← digitValue? c
  let t := threshold r.bias r.k
  let r := { r with place := r.place + d * r.weight }
  if d < t then r.insert? else some { r with weight := r.weight * (36 - t), k := r.k + 36 }

def insertAll? (text digits : List Char) : Option (List Char) := do
  let r ← digits.foldlM Reading.step? { text }
  if r.k = 36 then some r.text else none

/-- Behind the last hyphen, one number for each character beyond ASCII says how many places are passed over
before it is inserted, where the places of one character code come before those of the next. A hyphen has
text before it. -/
def decode? (s : List Char) : Option (List Char) :=
  if s.contains '-' then
    match beforeLast '-' s with
    | [] => none
    | text => insertAll? text (afterLast '-' s)
  else insertAll? [] s

def numeral : Nat → Nat → Nat → Nat → List Char
  | 0, _, _, _ => []
  | fuel + 1, bias, k, n =>
      let t := threshold bias k
      if n < t then [digit n]
      else digit (t + (n - t) % (36 - t)) :: numeral fuel bias (k + 36) ((n - t) / (36 - t))

structure Writing where
  digits : List Char := []
  delta : Nat := 0
  bias : Nat := 72
  count : Nat

def Writing.step (basic n : Nat) (w : Writing) (c : Char) : Writing :=
  if c.toNat < n then { w with delta := w.delta + 1 }
  else if c.toNat = n then
    { digits := w.digits ++ numeral (w.delta + 1) w.bias 36 w.delta
      bias := adapt w.delta (w.count + 1) (w.count = basic)
      count := w.count + 1 }
  else w

/-- Writes the characters of each code in turn; `next` is the first code not yet passed. -/
def writeCodes (text : List Char) (basic : Nat) : Nat → List Nat → Writing → Writing
  | _, [], w => w
  | next, n :: codes, w =>
      let w := { w with delta := w.delta + (n - next) * (w.count + 1) }
      let w := text.foldl (Writing.step basic n) w
      writeCodes text basic (n + 1) codes { w with delta := w.delta + 1 }

def insertCode (n : Nat) : List Nat → List Nat
  | [] => [n]
  | m :: rest => if n < m then n :: m :: rest else if n = m then m :: rest else m :: insertCode n rest

def encode (s : List Char) : List Char :=
  let basic := s.filter (·.toNat < 128)
  let codes := ((s.filter (128 ≤ ·.toNat)).map Char.toNat).foldr insertCode []
  let hyphen := if basic = [] then [] else ['-']
  basic ++ hyphen ++ (writeCodes s basic.length 128 codes { count := basic.length }).digits

end Dispatch.Domain.Punycode
