import Dispatch.Url.Basic

namespace Dispatch

open Text

theorem Text.Utf8.encode_injective {s t : List Char} (h : Utf8.encode s = Utf8.encode t) : s = t := by
  have hd := congrArg Utf8.decode? h
  rw [Utf8.decode?_encode, Utf8.decode?_encode] at hd
  exact Option.some.inj hd

namespace Url.Percent

variable {escapes : Char → Bool}

def IsForeign (c : Char) : Prop := c ≠ '%' ∧ hexValue? c = none

instance (c : Char) : Decidable (IsForeign c) := inferInstanceAs (Decidable (_ ∧ _))

theorem hexValue?_hexDigit {n : Nat} (h : n < 16) : hexValue? (hexDigit n) = some n := by
  have hall : ∀ n : Fin 16, hexValue? (hexDigit n) = some n.val := by decide
  exact hall ⟨n, h⟩

theorem decode_encodeByte (b : UInt8) (rest : List Char) :
    decode (encodeByte b ++ rest) = b :: decode rest := by
  have hb : b.toNat < 256 := b.toNat_lt
  have hhigh := hexValue?_hexDigit (n := b.toNat / 16) (by omega)
  have hlow := hexValue?_hexDigit (n := b.toNat % 16) (by omega)
  have hsum : b.toNat / 16 * 16 + b.toNat % 16 = b.toNat := by omega
  rw [encodeByte, List.cons_append, List.cons_append, List.cons_append, List.nil_append, decode, hhigh,
    hlow]
  simp [hsum]

theorem decode_encodeBytes (bs : List UInt8) (rest : List Char) :
    decode (encodeBytes bs ++ rest) = bs ++ decode rest := by
  induction bs with
  | nil => rfl
  | cons b bs ih =>
      rw [encodeBytes, List.flatMap_cons, List.append_assoc, decode_encodeByte, ← encodeBytes, ih]
      rfl

def StartsHex : List Char → Prop
  | a :: b :: _ => (hexValue? a).isSome ∧ (hexValue? b).isSome
  | _ => False

theorem decode_cons {c : Char} {s : List Char} (h : c = '%' → ¬ StartsHex s) :
    decode (c :: s) = Utf8.encode [c] ++ decode s := by
  by_cases hc : c = '%'
  · subst hc
    match s, h rfl with
    | [], _ => rfl
    | [a], _ => rfl
    | a :: b :: s, h =>
        rw [decode]
        cases ha : hexValue? a with
        | none => rfl
        | some m =>
            cases hb : hexValue? b with
            | none => rfl
            | some n => exact absurd ⟨by simp [ha], by simp [hb]⟩ h
  · rw [decode]
    intro a b rest hs
    cases hs
    exact absurd rfl hc

/-- Neither percent signs nor hexadecimal digits are escaped. -/
structure SparesEscapes (escapes : Char → Bool) : Prop where
  percent : escapes '%' = false
  hex : ∀ c, (hexValue? c).isSome → escapes c = false

theorem hexValue?_lt {c : Char} (h : (hexValue? c).isSome) : c.toNat < 128 := by
  have hle {a b : Char} (hab : a ≤ b) : a.toNat ≤ b.toNat := hab
  unfold hexValue? at h
  split at h
  · next hd =>
      have hd' : 48 ≤ c.val ∧ c.val ≤ 57 := by simpa [Char.isDigit] using hd
      exact Nat.lt_of_le_of_lt (UInt32.le_iff_toNat_le.1 hd'.2) (by decide)
  · split at h
    · next hl =>
        have hl' : 'a' ≤ c ∧ c ≤ 'f' := by simpa using hl
        exact Nat.lt_of_le_of_lt (hle hl'.2) (by decide)
    · split at h
      · next hu =>
          have hu' : 'A' ≤ c ∧ c ≤ 'F' := by simpa using hu
          exact Nat.lt_of_le_of_lt (hle hu'.2) (by decide)
      · cases h

theorem sparesEscapes_of_ascii (hpercent : escapes '%' = false)
    (hall : ∀ n < 128, (hexValue? (Char.ofNat n)).isSome → escapes (Char.ofNat n) = false) :
    SparesEscapes escapes where
  percent := hpercent
  hex c hc := by
    have hn := hall c.toNat (hexValue?_lt hc)
    rw [Char.ofNat_toNat] at hn
    exact hn hc

theorem escapesPath_sparesEscapes : SparesEscapes escapesPath :=
  sparesEscapes_of_ascii (by decide) (by decide)

theorem escapesQuery_sparesEscapes (special : Bool) : SparesEscapes (escapesQuery special) := by
  cases special <;> exact sparesEscapes_of_ascii (by decide) (by decide)

/-- The second text is the first with some of its characters escaped, percent signs and hexadecimal digits
never. -/
inductive Escaped : List Char → List Char → Prop
  | nil : Escaped [] []
  | kept (c : Char) {s t : List Char} (h : Escaped s t) : Escaped (c :: s) (c :: t)
  | escaped {c : Char} (hc : IsForeign c) {s t : List Char} (h : Escaped s t) :
      Escaped (c :: s) (encodeBytes (Utf8.encode [c]) ++ t)

theorem encodeBytes_head (c : Char) (s : List Char) :
    ∃ t, encodeBytes (Utf8.encode [c]) ++ s = '%' :: t := by
  have hne : Utf8.encode [c] ≠ [] := by
    have hlen : (Utf8.encode [c]).length = c.utf8Size := by
      simp [Utf8.encode, String.length_utf8EncodeChar]
    have hpos := c.utf8Size_pos
    intro hnil
    rw [hnil] at hlen
    simp at hlen
    omega
  obtain ⟨b, bs, hb⟩ := List.exists_cons_of_ne_nil hne
  rw [hb]
  exact ⟨_, rfl⟩

theorem Escaped.startsHex {s t : List Char} (h : Escaped s t) (ht : StartsHex t) : StartsHex s := by
  cases h with
  | nil => exact ht
  | escaped hc h =>
      obtain ⟨u, hu⟩ := encodeBytes_head _ _
      rw [hu] at ht
      match u, ht with
      | b :: u, ht => exact absurd ht.1 (by decide)
  | kept a h =>
      cases h with
      | nil => exact ht
      | escaped hc h =>
          obtain ⟨u, hu⟩ := encodeBytes_head _ _
          rw [hu] at ht
          exact absurd ht.2 (by decide)
      | kept b h => exact ht

theorem Escaped.of_hex {c : Char} {s t : List Char} (h : Escaped (c :: s) t) (hc : (hexValue? c).isSome) :
    ∃ u, t = c :: u ∧ Escaped s u := by
  cases h with
  | kept c h => exact ⟨_, rfl, h⟩
  | escaped hnone h =>
      rw [hnone.2] at hc
      cases hc

theorem ne_percent_of_hex {c : Char} (h : (hexValue? c).isSome) : c ≠ '%' := by
  rintro rfl
  exact absurd h (by decide)

theorem decode_encodeChar {c : Char} {s : List Char} (h : c = '%' → ¬ StartsHex s) :
    decode (encodeChar escapes c ++ s) = Utf8.encode [c] ++ decode s := by
  rw [encodeChar]
  cases hc : escapes c with
  | true => exact decode_encodeBytes _ s
  | false => exact decode_cons h

theorem not_startsHex {a b : Char} {rest : List Char}
    (h : ∀ m n, hexValue? a = some m → hexValue? b = some n → False) :
    ¬ StartsHex (a :: b :: rest) := by
  rintro ⟨ha, hb⟩
  obtain ⟨m, hm⟩ := Option.isSome_iff_exists.1 ha
  obtain ⟨n, hn⟩ := Option.isSome_iff_exists.1 hb
  exact h m n hm hn

theorem not_startsHex_of_short {c : Char} {s : List Char}
    (h : ∀ a b rest, c = '%' → s = a :: b :: rest → False) (hc : c = '%') : ¬ StartsHex s := by
  intro hs
  match s, hs with
  | a :: b :: rest, _ => exact h a b rest hc rfl

theorem Escaped.decode_eq {s t : List Char} (h : Escaped s t) : decode t = decode s := by
  induction h with
  | nil => rfl
  | escaped hc h ih => rw [decode_encodeBytes, decode_cons fun he => absurd he hc.1, ih]
  | @kept c s t h ih =>
      by_cases hstart : c = '%' ∧ StartsHex s
      · -- two digits make one byte with the percent sign; they are the same in both texts
        obtain ⟨rfl, hhex⟩ := hstart
        match s, hhex with
        | a :: b :: s, ⟨ha, hb⟩ =>
            obtain ⟨_, rfl, hrest⟩ := h.of_hex ha
            obtain ⟨_, rfl, -⟩ := hrest.of_hex hb
            have hdigits (u : List Char) :
                decode (a :: b :: u) = Utf8.encode [a] ++ (Utf8.encode [b] ++ decode u) := by
              rw [decode_cons fun he => absurd he (ne_percent_of_hex ha),
                decode_cons fun he => absurd he (ne_percent_of_hex hb)]
            rw [hdigits, hdigits, List.append_cancel_left_eq, List.append_cancel_left_eq] at ih
            obtain ⟨m, hm⟩ := Option.isSome_iff_exists.1 ha
            obtain ⟨n, hn⟩ := Option.isSome_iff_exists.1 hb
            simp only [decode, hm, hn, ih]
      · have hs : c = '%' → ¬ StartsHex s := fun hc hs => hstart ⟨hc, hs⟩
        rw [decode_cons hs, decode_cons fun hc => mt h.startsHex (hs hc), ih]

theorem SparesEscapes.isForeign (he : SparesEscapes escapes) {c : Char} (hc : escapes c = true) :
    IsForeign c := by
  constructor
  · rintro rfl
    rw [he.percent] at hc
    cases hc
  · rw [← Option.not_isSome_iff_eq_none]
    intro hsome
    rw [he.hex c hsome] at hc
    cases hc

theorem SparesEscapes.escaped (he : SparesEscapes escapes) (s : List Char) :
    Escaped s (encode escapes s) := by
  induction s with
  | nil => exact .nil
  | cons c s ih =>
      rw [encode, List.flatMap_cons, encodeChar]
      cases hc : escapes c with
      | true => exact .escaped (he.isForeign hc) ih
      | false => exact .kept c ih

theorem decode_encode (he : SparesEscapes escapes) (s : List Char) :
    decode (encode escapes s) = decode s :=
  (he.escaped s).decode_eq

theorem decode_encode_whole (h : escapes '%' = true) (s : List Char) :
    decode (encode escapes s) = Utf8.encode s := by
  induction s with
  | nil => rfl
  | cons c s ih =>
      have hsplit : Utf8.encode (c :: s) = Utf8.encode [c] ++ Utf8.encode s := Utf8.encode_append [c] s
      rw [encode, List.flatMap_cons, ← encode, hsplit, ← ih]
      cases hc : escapes c with
      | true =>
          rw [encodeChar, hc]
          exact decode_encodeBytes _ _
      | false =>
          apply decode_encodeChar
          rintro rfl
          rw [h] at hc
          cases hc

theorem not_mem_encodeBytes {c : Char} (hc : IsForeign c) (bs : List UInt8) : c ∉ encodeBytes bs := by
  have hdigit {n : Nat} (hn : n < 16) : c ≠ hexDigit n := by
    rintro rfl
    cases (hexValue?_hexDigit hn).symm.trans hc.2
  intro hmem
  obtain ⟨b, -, hb⟩ := List.mem_flatMap.1 hmem
  have hlt := b.toNat_lt
  have hhigh := hdigit (n := b.toNat / 16) (by omega)
  have hlow := hdigit (n := b.toNat % 16) (by omega)
  simp [encodeByte, hc.1, hhigh, hlow] at hb

theorem not_mem_encode {c : Char} (hc : IsForeign c) {s : List Char} (h : escapes c = true ∨ c ∉ s) :
    c ∉ encode escapes s := by
  intro hmem
  obtain ⟨x, hx, hcx⟩ := List.mem_flatMap.1 hmem
  rw [encodeChar] at hcx
  split at hcx
  · exact not_mem_encodeBytes hc _ hcx
  · next hkept =>
      obtain rfl := List.mem_singleton.1 hcx
      exact h.elim hkept fun hs => hs hx

theorem mem_decode {c : Char} (hc : IsForeign c) {s : List Char} (h : c ∈ s) {b : UInt8}
    (hb : b ∈ Utf8.encode [c]) : b ∈ decode s := by
  induction s using decode.induct with
  | case1 => cases h
  | case2 x y rest m n hy hx ih =>
      have hne {z : Char} {v : Nat} (hz : hexValue? z = some v) : c ≠ z := by
        rintro rfl
        cases hz.symm.trans hc.2
      have hrest : c ∈ rest := by simpa [hc.1, hne hx, hne hy] using h
      simp only [decode, hx, hy]
      exact List.mem_cons_of_mem _ (ih hrest)
  | case3 x y rest hxy ih =>
      have hrest : c ∈ x :: y :: rest := (List.mem_cons.1 h).resolve_left hc.1
      rw [decode_cons fun _ => not_startsHex hxy]
      exact List.mem_append_right _ (ih hrest)
  | case4 x rest hshort ih =>
      rw [decode_cons (not_startsHex_of_short hshort)]
      rcases List.mem_cons.1 h with rfl | h
      · exact List.mem_append_left _ hb
      · exact List.mem_append_right _ (ih h)

end Url.Percent

namespace Text.Utf8

theorem length_encode_cons (c : Char) (s : List Char) :
    (encode (c :: s)).length = c.utf8Size + (encode s).length := by
  rw [encode, List.flatMap_cons, List.length_append, String.length_utf8EncodeChar]
  rfl

theorem length_encode_le {s t : List Char} (h : s.Sublist t) : (encode s).length ≤ (encode t).length := by
  induction h with
  | slnil => exact Nat.le_refl _
  | cons c h ih =>
      rw [length_encode_cons]
      omega
  | cons_cons c h ih =>
      rw [length_encode_cons, length_encode_cons]
      omega

theorem eq_of_sublist {s t : List Char} (h : s.Sublist t) (hlen : (encode t).length ≤ (encode s).length) :
    s = t := by
  induction h with
  | slnil => rfl
  | cons c h ih =>
      have hle := length_encode_le h
      have hpos := c.utf8Size_pos
      rw [length_encode_cons] at hlen
      omega
  | cons_cons c h ih =>
      rw [length_encode_cons, length_encode_cons] at hlen
      rw [ih (by omega)]

end Text.Utf8

namespace Url

theorem Percent.length_decode_le (s : List Char) :
    (Percent.decode s).length ≤ (Utf8.encode s).length := by
  have hcons {c : Char} {s : List Char} (h : c = '%' → ¬ Percent.StartsHex s)
      (ih : (Percent.decode s).length ≤ (Utf8.encode s).length) :
      (Percent.decode (c :: s)).length ≤ (Utf8.encode (c :: s)).length := by
    have hsplit : Utf8.encode (c :: s) = Utf8.encode [c] ++ Utf8.encode s := Utf8.encode_append [c] s
    rw [Percent.decode_cons h, hsplit, List.length_append, List.length_append]
    omega
  induction s using Percent.decode.induct with
  | case1 => simp [Percent.decode]
  | case2 a b rest m n hb ha ih =>
      have hpos := '%'.utf8Size_pos
      simp only [Percent.decode, ha, hb, List.length_cons, Utf8.length_encode_cons]
      omega
  | case3 a b rest hab ih => exact hcons (fun _ => Percent.not_startsHex hab) ih
  | case4 c rest hshort ih => exact hcons (Percent.not_startsHex_of_short hshort) ih

/-- What is left of a text stands for the whole only if nothing was dropped. -/
theorem Percent.eq_of_decode {x n : List Char} (hx : x.Sublist n)
    (h : Percent.decode x = Utf8.encode n) : x = n := by
  apply Utf8.eq_of_sublist hx
  rw [← h]
  exact Percent.length_decode_le x

theorem Percent.decode_of_no_percent {s : List Char} (h : '%' ∉ s) :
    Percent.decode s = Utf8.encode s := by
  induction s with
  | nil => rfl
  | cons c s ih =>
      obtain ⟨hc, hs⟩ := not_or.1 (mt List.mem_cons.2 h)
      rw [Percent.decode_cons fun he => absurd he.symm hc, ih hs]
      exact (Utf8.encode_append [c] s).symm

theorem toLower_cases (c : Char) :
    c.toLower = c ∨ 65 ≤ c.toNat ∧ c.toLower.toNat = c.toNat + 32 := by
  unfold Char.toLower
  split
  · next h =>
      have hlow : 65 ≤ c.toNat := UInt32.le_iff_toNat_le.1 h.1
      have hhigh : c.toNat ≤ 90 := UInt32.le_iff_toNat_le.1 h.2
      refine .inr ⟨hlow, ?_⟩
      change (c.val + 32).toNat = c.val.toNat + 32
      rw [UInt32.toNat_add]
      exact Nat.mod_eq_of_lt (by change c.toNat + 32 < _; omega)
  · exact .inl rfl

theorem eq_of_toLower {c d : Char} (h : c.toLower = d) (hd : d.toNat < 97) : c = d := by
  rcases toLower_cases c with hc | ⟨hlow, hc⟩
  · rw [← h, hc]
  · rw [h] at hc
    omega

theorem eq_of_toLower_e {c : Char} (h : c.toLower = 'e') : c = 'e' ∨ c = 'E' := by
  rcases toLower_cases c with hc | ⟨_, hc⟩
  · exact .inl (hc.symm.trans h)
  · rw [h] at hc
    have he : 'E'.toNat + 32 = c.toNat + 32 := hc
    exact .inr (Char.toNat_inj.1 (Nat.add_right_cancel he).symm)

def IsDot (s : List Char) : Prop := s = ['.'] ∨ ∃ e, (e = 'e' ∨ e = 'E') ∧ s = ['%', '2', e]

theorem IsDot.decode_append {s : List Char} (h : IsDot s) (t : List Char) :
    Percent.decode (s ++ t) = Utf8.encode ['.'] ++ Percent.decode t := by
  rcases h with rfl | ⟨e, rfl | rfl, rfl⟩
  · exact Percent.decode_cons fun hdot => absurd hdot (by decide)
  · rfl
  · rfl

theorem isDot_of_toLower {s : List Char} (h : s.map Char.toLower = ['%', '2', 'e']) : IsDot s := by
  obtain ⟨a, s, rfl, ha, h⟩ := List.map_eq_cons_iff.1 h
  obtain ⟨b, s, rfl, hb, h⟩ := List.map_eq_cons_iff.1 h
  obtain ⟨c, s, rfl, hc, h⟩ := List.map_eq_cons_iff.1 h
  rw [eq_of_toLower ha (by decide), eq_of_toLower hb (by decide), List.map_eq_nil_iff.1 h]
  exact .inr ⟨c, eq_of_toLower_e hc, rfl⟩

theorem isDot_of_toLower_dot {s : List Char} (h : s.map Char.toLower = ['.']) : IsDot s := by
  obtain ⟨a, s, rfl, ha, h⟩ := List.map_eq_cons_iff.1 h
  rw [eq_of_toLower ha (by decide), List.map_eq_nil_iff.1 h]
  exact .inl rfl

theorem isDot_of_isSingleDot {s : List Char} (h : isSingleDot s = true) : IsDot s := by
  have h' : s = ['.'] ∨ s.map Char.toLower = ['%', '2', 'e'] := by simpa [isSingleDot] using h
  exact h'.elim .inl isDot_of_toLower

theorem split_isDoubleDot {s : List Char} (h : isDoubleDot s = true) :
    ∃ x y, s = x ++ y ∧ IsDot x ∧ IsDot y := by
  have hsplit {x y : List Char} (hxy : s.map Char.toLower = x ++ y) :
      ∃ x' y', s = x' ++ y' ∧ x'.map Char.toLower = x ∧ y'.map Char.toLower = y :=
    List.map_eq_append_iff.1 hxy
  have hdot {x : List Char} (hx : x.map Char.toLower = ['.'] ∨ x.map Char.toLower = ['%', '2', 'e']) :
      IsDot x := hx.elim isDot_of_toLower_dot isDot_of_toLower
  have hcases : ∃ x y, s.map Char.toLower = x ++ y ∧ (x = ['.'] ∨ x = ['%', '2', 'e']) ∧
      (y = ['.'] ∨ y = ['%', '2', 'e']) := by
    simp only [isDoubleDot, Bool.or_eq_true, decide_eq_true_eq] at h
    rcases h with ((h | h) | h) | h
    · exact ⟨['.'], ['.'], h, .inl rfl, .inl rfl⟩
    · exact ⟨['.'], ['%', '2', 'e'], h, .inl rfl, .inr rfl⟩
    · exact ⟨['%', '2', 'e'], ['.'], h, .inr rfl, .inl rfl⟩
    · exact ⟨['%', '2', 'e'], ['%', '2', 'e'], h, .inr rfl, .inr rfl⟩
  obtain ⟨x, y, hxy, hx, hy⟩ := hcases
  obtain ⟨x', y', rfl, rfl, rfl⟩ := hsplit hxy
  exact ⟨x', y', rfl, hdot hx, hdot hy⟩

theorem decode_of_isSingleDot {s : List Char} (h : isSingleDot s = true) :
    Percent.decode s = Utf8.encode ['.'] := by
  have hd := (isDot_of_isSingleDot h).decode_append []
  rwa [List.append_nil] at hd

theorem decode_of_isDoubleDot {s : List Char} (h : isDoubleDot s = true) :
    Percent.decode s = Utf8.encode ['.', '.'] := by
  obtain ⟨x, y, rfl, hx, hy⟩ := split_isDoubleDot h
  have hd := hy.decode_append []
  rw [List.append_nil] at hd
  rw [hx.decode_append, hd]
  rfl

end Url

end Dispatch
