import Dispatch.Text.Utf8
import Mathlib.Tactic.Common

namespace Dispatch.Text.Utf8

deriving instance DecidableEq for Lead

section Reading

variable {n m acc : Nat} {low high : UInt8} {rest : List UInt8}

theorem lead?_single : ∀ n < 128, lead? (.ofNat n) = some ⟨0, n, 0x80, 0xBF⟩ := by
  decide

theorem lead?_double : ∀ n < 32, 2 ≤ n → lead? (.ofNat (n + 192)) = some ⟨1, n, 0x80, 0xBF⟩ := by
  decide

theorem lead?_triple : ∀ n < 16, lead? (.ofNat (n + 224)) =
    some ⟨2, n, if n = 0 then 0xA0 else 0x80, if n = 13 then 0x9F else 0xBF⟩ := by
  decide

theorem lead?_quadruple : ∀ n < 5, lead? (.ofNat (n + 240)) =
    some ⟨3, n, if n = 0 then 0x90 else 0x80, if n = 4 then 0x8F else 0xBF⟩ := by
  decide

theorem toNat_continuation (h : m < 64) : (UInt8.ofNat (m + 128)).toNat = m + 128 := by
  rw [UInt8.toNat_ofNat']
  omega

theorem go_continuation (h : m < 64) (hlow : low.toNat ≤ m + 128) (hhigh : m + 128 ≤ high.toNat) :
    continueLossy.go (n + 1) acc low high (.ofNat (m + 128) :: rest) =
      continueLossy.go n (acc * 64 + m) 0x80 0xBF rest := by
  have hm := toNat_continuation h
  have hfits : (low ≤ .ofNat (m + 128) && .ofNat (m + 128) ≤ high) = true := by
    simp only [Bool.and_eq_true, decide_eq_true_eq, UInt8.le_iff_toNat_le, hm]
    exact ⟨hlow, hhigh⟩
  rw [continueLossy.go, if_pos hfits, hm, Nat.add_sub_cancel]

theorem go_continuation_any (h : m < 64) :
    continueLossy.go (n + 1) acc 0x80 0xBF (.ofNat (m + 128) :: rest) =
      continueLossy.go n (acc * 64 + m) 0x80 0xBF rest := by
  apply go_continuation h
  · change 128 ≤ m + 128
    omega
  · change m + 128 ≤ 191
    omega

theorem decodeLossy_of_lead {b : UInt8} {l : Lead} (h : lead? b = some l) (rest : List UInt8) :
    decodeLossy (b :: rest) = (continueLossy l rest).1 :: decodeLossy (continueLossy l rest).2 := by
  rw [decodeLossy, h]

theorem decodeLossy_of_go {b : UInt8} {l : Lead} (h : lead? b = some l) {bytes : List UInt8}
    (hgo : continueLossy.go l.following l.bits l.low l.high bytes = (Char.ofNat n, rest)) :
    decodeLossy (b :: bytes) = Char.ofNat n :: decodeLossy rest := by
  rw [decodeLossy_of_lead h, continueLossy, hgo]

theorem decodeLossy_of_no_lead {b : UInt8} (h : lead? b = none) (rest : List UInt8) :
    decodeLossy (b :: rest) = replacement :: decodeLossy rest := by
  rw [decodeLossy, h]

theorem decodeLossy_single (h : n ≤ 127) :
    decodeLossy (.ofNat n :: rest) = Char.ofNat n :: decodeLossy rest :=
  decodeLossy_of_go (lead?_single n (by omega)) rfl

theorem decodeLossy_double (h : 127 < n) (h' : n ≤ 2047) :
    decodeLossy (.ofNat (n / 64 % 32 + 192) :: .ofNat (n % 64 + 128) :: rest) =
      Char.ofNat n :: decodeLossy rest := by
  have hmod : n % 64 < 64 := Nat.mod_lt _ (by decide)
  have hsum : n / 64 % 32 * 64 + n % 64 = n := by omega
  apply decodeLossy_of_go (lead?_double _ (by omega) (by omega))
  rw [go_continuation_any hmod, hsum, continueLossy.go]

theorem decodeLossy_triple (h : 2047 < n) (h' : n ≤ 65535) (hsurrogate : n < 0xD800 ∨ 0xDFFF < n) :
    decodeLossy (.ofNat (n / 4096 % 16 + 224) :: .ofNat (n / 64 % 64 + 128) ::
      .ofNat (n % 64 + 128) :: rest) = Char.ofNat n :: decodeLossy rest := by
  have hmod : n % 64 < 64 := Nat.mod_lt _ (by decide)
  have hmid : n / 64 % 64 < 64 := Nat.mod_lt _ (by decide)
  have hsum : (n / 4096 % 16 * 64 + n / 64 % 64) * 64 + n % 64 = n := by omega
  have hlow : (if n / 4096 % 16 = 0 then (0xA0 : UInt8) else 0x80).toNat ≤ n / 64 % 64 + 128 := by
    split
    · change 160 ≤ _
      omega
    · change 128 ≤ _
      omega
  have hhigh : n / 64 % 64 + 128 ≤ (if n / 4096 % 16 = 13 then (0x9F : UInt8) else 0xBF).toNat := by
    split
    · change _ ≤ 159
      omega
    · change _ ≤ 191
      omega
  apply decodeLossy_of_go (lead?_triple _ (by omega))
  rw [go_continuation hmid hlow hhigh, go_continuation_any hmod, hsum, continueLossy.go]

theorem decodeLossy_quadruple (h : 65535 < n) (h' : n < 0x110000) :
    decodeLossy (.ofNat (n / 262144 % 8 + 240) :: .ofNat (n / 4096 % 64 + 128) ::
      .ofNat (n / 64 % 64 + 128) :: .ofNat (n % 64 + 128) :: rest) = Char.ofNat n :: decodeLossy rest := by
  have hmod : n % 64 < 64 := Nat.mod_lt _ (by decide)
  have hmid : n / 64 % 64 < 64 := Nat.mod_lt _ (by decide)
  have hnext : n / 4096 % 64 < 64 := Nat.mod_lt _ (by decide)
  have hsum : ((n / 262144 % 8 * 64 + n / 4096 % 64) * 64 + n / 64 % 64) * 64 + n % 64 = n := by omega
  have hlow : (if n / 262144 % 8 = 0 then (0x90 : UInt8) else 0x80).toNat ≤ n / 4096 % 64 + 128 := by
    split
    · change 144 ≤ _
      omega
    · change 128 ≤ _
      omega
  have hhigh : n / 4096 % 64 + 128 ≤ (if n / 262144 % 8 = 4 then (0x8F : UInt8) else 0xBF).toNat := by
    split
    · change _ ≤ 143
      omega
    · change _ ≤ 191
      omega
  apply decodeLossy_of_go (lead?_quadruple _ (by omega))
  rw [go_continuation hnext hlow hhigh, go_continuation_any hmid, go_continuation_any hmod, hsum,
    continueLossy.go]

end Reading

theorem decodeLossy_char (c : Char) (rest : List UInt8) :
    decodeLossy (String.utf8EncodeChar c ++ rest) = c :: decodeLossy rest := by
  have hvalid : c.val.toNat < 0xD800 ∨ 0xDFFF < c.val.toNat ∧ c.val.toNat < 0x110000 := c.valid
  have hself : Char.ofNat c.val.toNat = c := Char.ofNat_toNat c
  rw [String.utf8EncodeChar]
  conv => rhs; rw [← hself]
  split
  · exact decodeLossy_single (by omega)
  · split
    · exact decodeLossy_double (by omega) (by omega)
    · split
      · exact decodeLossy_triple (by omega) (by omega) (by omega)
      · exact decodeLossy_quadruple (by omega) (by omega)

theorem decodeLossy_encode (s : List Char) : decodeLossy (encode s) = s := by
  induction s with
  | nil => rw [encode, List.flatMap_nil, decodeLossy]
  | cons c s ih => rw [encode, List.flatMap_cons, decodeLossy_char, ← encode, ih]

section Writing

variable {b low high : UInt8} {n : Nat} {l : Lead} {rest : List UInt8}

theorem lead?_stray : ∀ n < 66, lead? (.ofNat (n + 128)) = none := by
  decide

theorem lead?_beyond : ∀ n < 11, lead? (.ofNat (n + 245)) = none := by
  decide

theorem val_ofNat (h : n < 0xD800 ∨ 0xDFFF < n ∧ n < 0x110000) : (Char.ofNat n).val.toNat = n := by
  rw [Char.ofNat, dif_pos h]
  rfl

theorem utf8EncodeChar_single (h : n ≤ 127) : String.utf8EncodeChar (Char.ofNat n) = [.ofNat n] := by
  rw [String.utf8EncodeChar, val_ofNat (by omega)]
  exact if_pos h

theorem utf8EncodeChar_double (h : 127 < n) (h' : n ≤ 2047) : String.utf8EncodeChar (Char.ofNat n) =
    [.ofNat (n / 64 % 32 + 192), .ofNat (n % 64 + 128)] := by
  rw [String.utf8EncodeChar, val_ofNat (by omega)]
  exact (if_neg (by omega)).trans (if_pos h')

theorem utf8EncodeChar_triple (h : 2047 < n) (h' : n ≤ 65535) (hsurrogate : n < 0xD800 ∨ 0xDFFF < n) :
    String.utf8EncodeChar (Char.ofNat n) =
      [.ofNat (n / 4096 % 16 + 224), .ofNat (n / 64 % 64 + 128), .ofNat (n % 64 + 128)] := by
  rw [String.utf8EncodeChar, val_ofNat (by omega)]
  exact (if_neg (by omega)).trans ((if_neg (by omega)).trans (if_pos h'))

theorem utf8EncodeChar_quadruple (h : 65535 < n) (h' : n < 0x110000) :
    String.utf8EncodeChar (Char.ofNat n) = [.ofNat (n / 262144 % 8 + 240), .ofNat (n / 4096 % 64 + 128),
      .ofNat (n / 64 % 64 + 128), .ofNat (n % 64 + 128)] := by
  rw [String.utf8EncodeChar, val_ofNat (by omega)]
  exact (if_neg (by omega)).trans ((if_neg (by omega)).trans (if_neg (by omega)))

theorem go_cases (n acc : Nat) {low high : UInt8} (hlow : 0x80 ≤ low) (hhigh : high ≤ 0xBF)
    (bytes : List UInt8) : (continueLossy.go (n + 1) acc low high bytes).1 = replacement ∨
      ∃ m rest, m < 64 ∧ low.toNat ≤ m + 128 ∧ m + 128 ≤ high.toNat ∧ bytes = .ofNat (m + 128) :: rest ∧
        continueLossy.go (n + 1) acc low high bytes =
          continueLossy.go n (acc * 64 + m) 0x80 0xBF rest := by
  cases bytes with
  | nil => exact .inl rfl
  | cons b rest =>
      by_cases hfits : (low ≤ b && b ≤ high) = true
      · have hstep : continueLossy.go (n + 1) acc low high (b :: rest) =
            continueLossy.go n (acc * 64 + (b.toNat - 0x80)) 0x80 0xBF rest := by
          rw [continueLossy.go, if_pos hfits]
        simp only [Bool.and_eq_true, decide_eq_true_eq, UInt8.le_iff_toNat_le] at hfits hlow hhigh
        have hstart : (0x80 : UInt8).toNat = 128 := rfl
        have hend : (0xBF : UInt8).toNat = 191 := rfl
        have hb : UInt8.ofNat (b.toNat - 128 + 128) = b := by
          rw [Nat.sub_add_cancel (by omega), UInt8.ofNat_toNat]
        exact .inr ⟨b.toNat - 128, rest, by omega, by omega, by omega, by rw [hb], hstep⟩
      · exact .inl (by rw [continueLossy.go, if_neg hfits])

theorem go_cases_any (n acc : Nat) (bytes : List UInt8) :
    (continueLossy.go (n + 1) acc 0x80 0xBF bytes).1 = replacement ∨
      ∃ m rest, m < 64 ∧ bytes = .ofNat (m + 128) :: rest ∧
        continueLossy.go (n + 1) acc 0x80 0xBF bytes =
          continueLossy.go n (acc * 64 + m) 0x80 0xBF rest := by
  rcases go_cases n acc (UInt8.le_refl _) (UInt8.le_refl _) bytes with h | ⟨m, rest, hm, -, -, hgo⟩
  · exact .inl h
  · exact .inr ⟨m, rest, hm, hgo⟩

theorem double_cases (h : 2 ≤ n) (h' : n < 32) (bytes : List UInt8) :
    let r := continueLossy.go 1 n 0x80 0xBF bytes
    r.1 = replacement ∨ .ofNat (n + 192) :: bytes = String.utf8EncodeChar r.1 ++ r.2 := by
  rcases go_cases_any 0 n bytes with hnone | ⟨m, rest, hm, rfl, hgo⟩
  · exact .inl hnone
  · right
    have hlead : (n * 64 + m) / 64 % 32 = n := by omega
    have hmod : (n * 64 + m) % 64 = m := by omega
    rw [hgo, continueLossy.go, utf8EncodeChar_double (by omega) (by omega), hlead, hmod]
    rfl

theorem triple_cases (h : n < 16) (bytes : List UInt8) :
    let r := continueLossy.go 2 n (if n = 0 then 0xA0 else 0x80) (if n = 13 then 0x9F else 0xBF) bytes
    r.1 = replacement ∨ .ofNat (n + 224) :: bytes = String.utf8EncodeChar r.1 ++ r.2 := by
  have hlow : (0x80 : UInt8) ≤ if n = 0 then 0xA0 else 0x80 := by split <;> decide
  have hhigh : (if n = 13 then (0x9F : UInt8) else 0xBF) ≤ 0xBF := by split <;> decide
  have hstart : (if n = 0 then (0xA0 : UInt8) else 0x80).toNat = if n = 0 then 160 else 128 := by
    split <;> rfl
  have hend : (if n = 13 then (0x9F : UInt8) else 0xBF).toNat = if n = 13 then 159 else 191 := by
    split <;> rfl
  rcases go_cases 1 n hlow hhigh bytes with hnone | ⟨k, rest, hk, hk', hk'', rfl, hgo⟩
  · exact .inl hnone
  · rcases go_cases_any 0 (n * 64 + k) rest with hnone | ⟨m, rest, hm, rfl, hgo'⟩
    · exact .inl (by rw [hgo, hnone])
    · right
      have hlead : ((n * 64 + k) * 64 + m) / 4096 % 16 = n := by omega
      have hmid : ((n * 64 + k) * 64 + m) / 64 % 64 = k := by omega
      have hmod : ((n * 64 + k) * 64 + m) % 64 = m := by omega
      rw [hstart] at hk'
      rw [hend] at hk''
      rw [hgo, hgo', continueLossy.go, utf8EncodeChar_triple, hlead, hmid, hmod]
      · rfl
      all_goals split at hk' <;> split at hk'' <;> omega

theorem quadruple_cases (h : n < 5) (bytes : List UInt8) :
    let r := continueLossy.go 3 n (if n = 0 then 0x90 else 0x80) (if n = 4 then 0x8F else 0xBF) bytes
    r.1 = replacement ∨ .ofNat (n + 240) :: bytes = String.utf8EncodeChar r.1 ++ r.2 := by
  have hlow : (0x80 : UInt8) ≤ if n = 0 then 0x90 else 0x80 := by split <;> decide
  have hhigh : (if n = 4 then (0x8F : UInt8) else 0xBF) ≤ 0xBF := by split <;> decide
  have hstart : (if n = 0 then (0x90 : UInt8) else 0x80).toNat = if n = 0 then 144 else 128 := by
    split <;> rfl
  have hend : (if n = 4 then (0x8F : UInt8) else 0xBF).toNat = if n = 4 then 143 else 191 := by
    split <;> rfl
  rcases go_cases 2 n hlow hhigh bytes with hnone | ⟨j, rest, hj, hj', hj'', rfl, hgo⟩
  · exact .inl hnone
  · rcases go_cases_any 1 (n * 64 + j) rest with hnone | ⟨k, rest, hk, rfl, hgo'⟩
    · exact .inl (by rw [hgo, hnone])
    · rcases go_cases_any 0 ((n * 64 + j) * 64 + k) rest with hnone | ⟨m, rest, hm, rfl, hgo''⟩
      · exact .inl (by rw [hgo, hgo', hnone])
      · right
        have hlead : (((n * 64 + j) * 64 + k) * 64 + m) / 262144 % 8 = n := by omega
        have hnext : (((n * 64 + j) * 64 + k) * 64 + m) / 4096 % 64 = j := by omega
        have hmid : (((n * 64 + j) * 64 + k) * 64 + m) / 64 % 64 = k := by omega
        have hmod : (((n * 64 + j) * 64 + k) * 64 + m) % 64 = m := by omega
        rw [hstart] at hj'
        rw [hend] at hj''
        rw [hgo, hgo', hgo'', continueLossy.go, utf8EncodeChar_quadruple, hlead, hnext, hmid, hmod]
        · rfl
        all_goals split at hj' <;> split at hj'' <;> omega

theorem exists_ofNat {k : Nat} (h : k ≤ b.toNat) : ∃ n, n + k = b.toNat ∧ b = .ofNat (n + k) :=
  ⟨b.toNat - k, Nat.sub_add_cancel h, by rw [Nat.sub_add_cancel h, UInt8.ofNat_toNat]⟩

theorem continueLossy_cases (h : lead? b = some l) (bytes : List UInt8) :
    (continueLossy l bytes).1 = replacement ∨
      b :: bytes = String.utf8EncodeChar (continueLossy l bytes).1 ++ (continueLossy l bytes).2 := by
  have hb := b.toNat_lt
  -- the first byte says how many belong together
  rcases Nat.lt_or_ge b.toNat 128 with hsingle | hsingle
  · obtain ⟨n, hn, rfl⟩ := exists_ofNat (Nat.zero_le b.toNat)
    have hlead : lead? (.ofNat (n + 0)) = _ := lead?_single n (by omega)
    rw [hlead] at h
    cases h
    exact .inr (congrArg (· ++ bytes) (utf8EncodeChar_single (by omega)).symm)
  · rcases Nat.lt_or_ge b.toNat 194 with hstray | hstray
    · obtain ⟨n, hn, rfl⟩ := exists_ofNat hsingle
      rw [lead?_stray n (by omega)] at h
      cases h
    · rcases Nat.lt_or_ge b.toNat 224 with hdouble | hdouble
      · obtain ⟨n, hn, rfl⟩ := exists_ofNat (Nat.le_trans (by decide : 192 ≤ 194) hstray)
        have hlow : 2 ≤ n := by omega
        have hhigh : n < 32 := by omega
        rw [lead?_double n hhigh hlow] at h
        cases h
        exact double_cases hlow hhigh bytes
      · rcases Nat.lt_or_ge b.toNat 240 with htriple | htriple
        · obtain ⟨n, hn, rfl⟩ := exists_ofNat hdouble
          have hhigh : n < 16 := by omega
          rw [lead?_triple n hhigh] at h
          cases h
          exact triple_cases hhigh bytes
        · obtain ⟨n, hn, rfl⟩ := exists_ofNat htriple
          rcases Nat.lt_or_ge n 5 with hquadruple | hquadruple
          · rw [lead?_quadruple n hquadruple] at h
            cases h
            exact quadruple_cases hquadruple bytes
          · obtain ⟨m, rfl⟩ := Nat.exists_eq_add_of_le' hquadruple
            rw [Nat.add_assoc, lead?_beyond m (by omega)] at h
            cases h

end Writing

theorem go_isSuffix (n acc : Nat) (low high : UInt8) (bytes : List UInt8) :
    (continueLossy.go n acc low high bytes).2 <:+ bytes := by
  induction n generalizing acc low high bytes with
  | zero => exact List.suffix_refl bytes
  | succ n ih =>
      cases bytes with
      | nil => exact List.suffix_refl []
      | cons b rest =>
          rw [continueLossy.go]
          split
          · exact (ih _ _ _ _).trans (List.suffix_cons b rest)
          · exact List.suffix_refl _

/-- A character that is read and is no replacement stands in the bytes as it is written. -/
theorem infix_of_mem_decodeLossy {c : Char} {bytes : List UInt8} (h : c ∈ decodeLossy bytes)
    (hc : c ≠ replacement) : String.utf8EncodeChar c <:+: bytes := by
  induction bytes using decodeLossy.induct with
  | case1 =>
      rw [decodeLossy] at h
      cases h
  | case2 b rest hb ih =>
      rw [decodeLossy_of_no_lead hb] at h
      exact List.infix_cons (ih ((List.mem_cons.1 h).resolve_left hc))
  | case3 b rest l hb hle ih =>
      rw [decodeLossy_of_lead hb] at h
      rcases List.mem_cons.1 h with rfl | h
      · rw [(continueLossy_cases hb rest).resolve_left hc]
        exact (List.prefix_append _ _).isInfix
      · exact List.infix_cons ((ih h).trans (go_isSuffix _ _ _ _ _).isInfix)

/-- Bytes that are read without a replacement are text, and it is that text. -/
theorem encode_decodeLossy {bytes : List UInt8} (h : replacement ∉ decodeLossy bytes) :
    encode (decodeLossy bytes) = bytes := by
  induction bytes using decodeLossy.induct with
  | case1 =>
      rw [decodeLossy]
      rfl
  | case2 b rest hb ih =>
      rw [decodeLossy_of_no_lead hb] at h
      exact absurd List.mem_cons_self h
  | case3 b rest l hb hle ih =>
      rw [decodeLossy_of_lead hb] at h ⊢
      obtain ⟨hchar, hrest⟩ := not_or.1 (mt List.mem_cons.2 h)
      rw [encode, List.flatMap_cons, ← encode, ih hrest]
      exact ((continueLossy_cases hb rest).resolve_left (Ne.symm hchar)).symm

theorem mem_go {b : UInt8} (hb : b < 0x80) (n acc : Nat) {low high : UInt8} (hlow : 0x80 ≤ low)
    {bytes : List UInt8} (h : b ∈ bytes) : b ∈ (continueLossy.go n acc low high bytes).2 := by
  induction n generalizing acc low high bytes with
  | zero => exact h
  | succ n ih =>
      cases bytes with
      | nil => cases h
      | cons x rest =>
          rw [continueLossy.go]
          split
          · next hx =>
              -- what goes on with a character is no byte of ASCII
              have hle : low ≤ x := by simpa using And.left (by simpa using hx)
              rcases List.mem_cons.1 h with rfl | h
              · exact absurd (UInt8.le_trans hlow hle) (UInt8.not_le.2 hb)
              · exact ih _ (UInt8.le_refl _) h
          · exact h

theorem le_low_of_lead {x : UInt8} {l : Lead} (h : lead? x = some l) : 0x80 ≤ l.low := by
  unfold lead? at h
  repeat' split at h
  all_goals cases h
  all_goals
    dsimp only
    decide

theorem mem_decodeLossy {b : UInt8} (hb : b < 0x80) {bytes : List UInt8} (h : b ∈ bytes) :
    Char.ofNat b.toNat ∈ decodeLossy bytes := by
  have hown : lead? b = some ⟨0, b.toNat, 0x80, 0xBF⟩ := if_pos hb
  induction bytes using decodeLossy.induct with
  | case1 => cases h
  | case2 x rest hx ih =>
      rw [decodeLossy_of_no_lead hx]
      rcases List.mem_cons.1 h with rfl | h
      · cases hown.symm.trans hx
      · exact List.mem_cons_of_mem _ (ih h)
  | case3 x rest l hx hle ih =>
      rw [decodeLossy_of_lead hx]
      rcases List.mem_cons.1 h with rfl | h
      · cases hown.symm.trans hx
        exact List.mem_cons_self
      · exact List.mem_cons_of_mem _ (ih (mem_go hb _ _ (le_low_of_lead hx) h))

end Dispatch.Text.Utf8
