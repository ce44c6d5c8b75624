import Dispatch.Url.Percent

namespace Dispatch.Url.Form

open Text

abbrev Pair := List Char × List Char

def keeps (c : Char) : Bool :=
  c.isAlphanum || c = '*' || c = '-' || c = '.' || c = '_'

def encodeChar (c : Char) : List Char :=
  if c = ' ' then ['+'] else Percent.encodeChar (fun c => !keeps c) c

def encodeText (s : List Char) : List Char := s.flatMap encodeChar

def encodePair (p : Pair) : List Char := encodeText p.1 ++ '=' :: encodeText p.2

def append (query : Option (List Char)) (p : Pair) : List Char :=
  match query with
  | none => encodePair p
  | some [] => encodePair p
  | some q => q ++ '&' :: encodePair p

def decodeText (s : List Char) : List Char :=
  Utf8.decodeLossy (Percent.decode (s.map fun c => if c = '+' then ' ' else c))

def decodePair (s : List Char) : Pair :=
  match splitOnce '=' s with
  | some (name, value) => (decodeText name, decodeText value)
  | none => (decodeText s, [])

def decode (query : List Char) : List Pair :=
  ((pieces '&' query).filter (· ≠ [])).map decodePair

end Dispatch.Url.Form
