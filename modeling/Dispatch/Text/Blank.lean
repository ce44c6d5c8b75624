namespace Dispatch.Text

/-- The characters with the property White_Space. -/
def isBlank (c : Char) : Bool :=
  let n := c.toNat
  (0x09 ≤ n && n ≤ 0x0D) || n = 0x20 || n = 0x85 || n = 0xA0 || n = 0x1680 ||
    (0x2000 ≤ n && n ≤ 0x200A) || n = 0x2028 || n = 0x2029 || n = 0x202F || n = 0x205F || n = 0x3000

def skipBlanks (s : List Char) : List Char := s.dropWhile isBlank

example : isBlank ' ' ∧ isBlank '\x0b' ∧ isBlank '\u3000' ∧ ¬ isBlank '\u200b' := by decide

end Dispatch.Text
