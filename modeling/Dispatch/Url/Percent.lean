import Dispatch.Text.Hex
import Dispatch.Text.Split
import Dispatch.Text.Utf8

namespace Dispatch.Url.Percent

open Text

def hexDigit (n : Nat) : Char := (Nat.digitChar n).toUpper

def encodeByte (b : UInt8) : List Char := ['%', hexDigit (b.toNat / 16), hexDigit (b.toNat % 16)]

def encodeBytes (bytes : List UInt8) : List Char := bytes.flatMap encodeByte

def encodeChar (escapes : Char → Bool) (c : Char) : List Char :=
  if escapes c then encodeBytes (Utf8.encode [c]) else [c]

def encode (escapes : Char → Bool) (s : List Char) : List Char := s.flatMap (encodeChar escapes)

/-- The bytes that a text stands for. A percent sign without two digits stands for itself. -/
def decode : List Char → List UInt8
  | [] => []
  | '%' :: a :: b :: rest =>
      match hexValue? a, hexValue? b with
      | some m, some n => (m * 16 + n).toUInt8 :: decode rest
      | _, _ => Utf8.encode ['%'] ++ decode (a :: b :: rest)
  | c :: rest => Utf8.encode [c] ++ decode rest

def escapesControl (c : Char) : Bool := c.toNat < 0x20 || 0x7E < c.toNat

def escapesFragment (c : Char) : Bool :=
  escapesControl c || c = ' ' || c = '"' || c = '<' || c = '>' || c = '\u0060'

def escapesPath (c : Char) : Bool :=
  escapesFragment c || c = '#' || c = '?' || c = '{' || c = '}'

/-- In a segment that is added to a path, the characters that would end it are data. -/
def escapesSegment (special : Bool) (c : Char) : Bool :=
  escapesPath c || c = '/' || c = '%' || (special && c = '\\')

def escapesQuery (special : Bool) (c : Char) : Bool :=
  escapesControl c || c = ' ' || c = '"' || c = '#' || c = '<' || c = '>' || (special && c = '\'')

end Dispatch.Url.Percent
