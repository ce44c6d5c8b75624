namespace Dispatch.Text.Utf8

def encode (s : List Char) : List UInt8 := s.flatMap String.utf8EncodeChar

def decode? (bytes : List UInt8) : Option (List Char) :=
  (ByteArray.utf8Decode? ⟨bytes.toArray⟩).map Array.toList

def replacement : Char := '\uFFFD'

/-- How a first byte goes on: how many bytes follow, the bits it carries, and the range the next
byte must lie in. -/
structure Lead where
  following : Nat
  bits : Nat
  low : UInt8
  high : UInt8

def lead? (b : UInt8) : Option Lead :=
  if b < 0x80 then some ⟨0, b.toNat, 0x80, 0xBF⟩
  else if b < 0xC2 then none
  else if b < 0xE0 then some ⟨1, b.toNat - 0xC0, 0x80, 0xBF⟩
  else if b < 0xF0 then
    some ⟨2, b.toNat - 0xE0, if b = 0xE0 then 0xA0 else 0x80, if b = 0xED then 0x9F else 0xBF⟩
  else if b < 0xF5 then
    some ⟨3, b.toNat - 0xF0, if b = 0xF0 then 0x90 else 0x80, if b = 0xF4 then 0x8F else 0xBF⟩
  else none

/-- Reads `l.following` more bytes: the character they make, or the replacement, and the bytes from
the first one that did not fit. -/
def continueLossy (l : Lead) : List UInt8 → Char × List UInt8
  | rest => go l.following l.bits l.low l.high rest
where
  go : Nat → Nat → UInt8 → UInt8 → List UInt8 → Char × List UInt8
    | 0, acc, _, _, rest => (Char.ofNat acc, rest)
    | _ + 1, _, _, _, [] => (replacement, [])
    | n + 1, acc, low, high, b :: rest =>
        if low ≤ b && b ≤ high then go n (acc * 64 + (b.toNat - 0x80)) 0x80 0xBF rest
        else (replacement, b :: rest)

theorem length_go_le (n acc : Nat) (low high : UInt8) (bytes : List UInt8) :
    (continueLossy.go n acc low high bytes).2.length ≤ bytes.length := by
  induction n generalizing acc low high bytes with
  | zero => simp [continueLossy.go]
  | succ n ih =>
      cases bytes with
      | nil => simp [continueLossy.go]
      | cons b rest =>
          simp only [continueLossy.go]
          split
          · exact Nat.le_trans (ih _ _ _ _) (Nat.le_succ _)
          · simp

theorem length_continueLossy_le (l : Lead) (bytes : List UInt8) :
    (continueLossy l bytes).2.length ≤ bytes.length :=
  length_go_le _ _ _ _ _

/-- One replacement stands for every run of bytes that cannot start or continue a character. -/
def decodeLossy (bytes : List UInt8) : List Char :=
  match bytes with
  | [] => []
  | b :: rest =>
      match lead? b with
      | none => replacement :: decodeLossy rest
      | some l =>
          have := length_continueLossy_le l rest
          (continueLossy l rest).1 :: decodeLossy (continueLossy l rest).2
termination_by bytes.length
decreasing_by all_goals (simp only [List.length_cons]; omega)

theorem encode_append (s t : List Char) : encode (s ++ t) = encode s ++ encode t :=
  List.flatMap_append

theorem decode?_encode (s : List Char) : decode? (encode s) = some s := by
  have h : (⟨(encode s).toArray⟩ : ByteArray) = s.utf8Encode :=
    ByteArray.ext (by simp [encode, List.utf8Encode])
  simp [decode?, h, List.utf8Decode?_utf8Encode]

end Dispatch.Text.Utf8
