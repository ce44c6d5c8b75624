import Dispatch.Character.Hidden
import Dispatch.Domain.Mapping.Arabic
import Dispatch.Domain.Mapping.Ideographs
import Dispatch.Domain.Mapping.Letters
import Dispatch.Domain.Mapping.Symbols

namespace Dispatch.Domain

open Character

def ignoredRanges : Ranges := [
    (0xAD, 0xAD), (0x34F, 0x34F), (0x115F, 0x1160), (0x17B4, 0x17B5), (0x180B, 0x180F),
    (0x200B, 0x200B), (0x2060, 0x2064), (0x206A, 0x206F), (0x3164, 0x3164), (0xFE00, 0xFE0F),
    (0xFEFF, 0xFEFF), (0xFFA0, 0xFFA0), (0x1BCA0, 0x1BCA3), (0x1D173, 0x1D17A), (0xE0100, 0xE01EF)]

def refusedRanges : Ranges := [
    (0x2024, 0x2026), (0x2488, 0x249B), (0x2FF0, 0x2FFF), (0x31EF, 0x31EF), (0x33C2, 0x33C2),
    (0x33C7, 0x33C7), (0x33D8, 0x33D8), (0xFE12, 0xFE12), (0xFE19, 0xFE19), (0xFE30, 0xFE30),
    (0xFE52, 0xFE52), (0xFFFC, 0xFFFD), (0x1F100, 0x1F100)]

def isJoiner (c : Char) : Bool := c = '\u200c' || c = '\u200d'

def mappingRules : List (List Mapping.Rule) :=
  [Mapping.letterRules, Mapping.symbolRules, Mapping.mathematicalRules, Mapping.widthRules,
    Mapping.arabicRules, Mapping.ideographRules]

def mapped? (c : Char) : Option (List Char) :=
  if c.toNat < 0x80 then some [c.toLower]
  else match mappingRules.findSome? fun rules => rules.findSome? (·.text? c.toNat) with
    | some text => some (text.map Char.ofNat)
    | none =>
        if ignoredRanges.contains c then some []
        else if isJoiner c then some [c]
        else if isHidden c || refusedRanges.contains c then none
        else some [c]

end Dispatch.Domain
