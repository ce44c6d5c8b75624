import Mathlib.Data.List.TakeWhile
import Dispatch.Proofs.Clock
import Dispatch.Proofs.JsonText
import Dispatch.Time.Written

namespace Dispatch.Time

open Text

theorem isDigit_padded {width n : Nat} {c : Char} (h : c ∈ padded width n) : c.isDigit = true := by
  rcases List.mem_append.1 h with h | h
  · rw [List.eq_of_mem_replicate h]
    decide
  · exact Json.isDigit_toDigits h

theorem value_padded (width n : Nat) : Nat.ofDigitChars 10 (padded width n) 0 = n := by
  rw [padded, Nat.ofDigitChars_append, Nat.ofDigitChars_replicate_zero, Nat.mul_zero,
    Nat.ofDigitChars_ten_toDigits]

theorem length_padded {width n : Nat} (hwidth : 0 < width) (h : n < 10 ^ width) :
    (padded width n).length = width := by
  have hle := (Nat.length_toDigits_le_iff (b := 10) (by decide) hwidth).2 h
  rw [padded, List.length_append, List.length_replicate]
  omega

theorem padded_ne_nil (width n : Nat) : padded width n ≠ [] := by
  rw [padded]
  simp

theorem readNumber_digits {limit : Nat} {ds rest : List Char} (hds : ∀ c ∈ ds, c.isDigit = true)
    (hne : ds ≠ []) (h : ds.length = limit ∨ ds.length ≤ limit ∧ Json.EndsDigits rest) :
    readNumber limit (ds ++ rest) = some (Nat.ofDigitChars 10 ds 0, rest) := by
  have htake : ((ds ++ rest).take limit).takeWhile Char.isDigit = ds := by
    rcases h with rfl | ⟨hle, hrest⟩
    · rw [List.take_left, List.takeWhile_eq_self_iff.2 hds]
    · rw [List.take_append, List.take_of_length_le hle, List.takeWhile_append_of_pos hds]
      cases rest with
      | nil => simp
      | cons c rest => cases limit - ds.length <;> simp [hrest c rfl]
  rw [readNumber]
  simp only [htake]
  rw [if_neg hne, List.drop_left]

theorem readNumber_padded {width n : Nat} (hwidth : 0 < width) (h : n < 10 ^ width) (rest : List Char) :
    readNumber width (padded width n ++ rest) = some (n, rest) := by
  rw [readNumber_digits (fun _ => isDigit_padded) (padded_ne_nil width n)
    (.inl (length_padded hwidth h)), value_padded]

theorem skipBlanks_digits {ds : List Char} (hds : ∀ c ∈ ds, c.isDigit = true) (hne : ds ≠ [])
    (rest : List Char) : skipBlanks (ds ++ rest) = ds ++ rest := by
  obtain ⟨c, ds, rfl⟩ := List.exists_cons_of_ne_nil hne
  have hdigit := hds c List.mem_cons_self
  have hblank : isBlank c = false := by
    simp only [Char.isDigit, Bool.and_eq_true, decide_eq_true_eq, ge_iff_le, UInt32.le_iff_toNat_le] at hdigit
    have h1 : 48 ≤ c.toNat := hdigit.1
    have h2 : c.toNat ≤ 57 := hdigit.2
    simp [isBlank]
    omega
  rw [skipBlanks, List.cons_append, List.dropWhile_cons_of_neg (by simp [hblank])]

theorem readPair_padded {n : Nat} (h : n < 100) (rest : List Char) :
    readPair (padded 2 n ++ rest) = some (n, rest) := by
  rw [readPair, skipBlanks_digits (fun _ => isDigit_padded) (padded_ne_nil 2 n),
    readNumber_padded (by decide) h]

theorem readYear_unsigned {s : List Char} (hminus : s.head? ≠ some '-') (hplus : s.head? ≠ some '+')
    (hblank : skipBlanks s = s) :
    readYear s = (readNumber 4 s).map fun p => ((p.1 : Int), p.2) := by
  unfold readYear
  rw [hblank]
  split
  · exact absurd rfl hminus
  · exact absurd rfl hplus
  · rfl

theorem head?_padded_ne {width n : Nat} {c : Char} (hc : c.isDigit = false) (rest : List Char) :
    (padded width n ++ rest).head? ≠ some c := by
  obtain ⟨d, ds, hds⟩ := List.exists_cons_of_ne_nil (padded_ne_nil width n)
  rw [hds]
  have hd : d ∈ padded width n := hds ▸ List.mem_cons_self
  rintro ⟨rfl⟩
  rw [isDigit_padded hd] at hc
  cases hc

theorem readYear_yearText (year : Int) (rest : List Char) :
    readYear (yearText year ++ '-' :: rest) = some (year, '-' :: rest) := by
  have hall (n : Nat) : readNumber (padded 4 n ++ '-' :: rest).length (padded 4 n ++ '-' :: rest) =
      some (n, '-' :: rest) := by
    rw [readNumber_digits (fun _ => isDigit_padded) (padded_ne_nil 4 n)
      (.inr ⟨by simp, Json.endsDigits_cons (by decide) rest⟩), value_padded]
  unfold yearText
  split_ifs with hneg hbig
  · change (readNumber (padded 4 year.natAbs ++ '-' :: rest).length
      (padded 4 year.natAbs ++ '-' :: rest)).map (fun p => (-(p.1 : Int), p.2)) = _
    rw [hall, Option.map_some]
    congr 2
    omega
  · change (readNumber (padded 4 year.natAbs ++ '-' :: rest).length
      (padded 4 year.natAbs ++ '-' :: rest)).map (fun p => ((p.1 : Int), p.2)) = _
    rw [hall, Option.map_some]
    congr 2
    omega
  · rw [readYear_unsigned (head?_padded_ne (by decide) _) (head?_padded_ne (by decide) _)
      (skipBlanks_digits (fun _ => isDigit_padded) (padded_ne_nil 4 _) _),
      readNumber_padded (by decide) (by omega), Option.map_some]
    congr 2
    omega

theorem readMark_cons {c : Char} (h : isBlank c = false) (rest : List Char) :
    readMark c (c :: rest) = some rest := by
  rw [readMark, skipBlanks, List.dropWhile_cons_of_neg (by simp [h])]
  exact if_pos rfl

theorem readDate_dateText {d : Date} (h : d.IsValid) (rest : List Char) :
    readDate (dateText d ++ rest) = some (d, rest) := by
  obtain ⟨-, hmonth, -, hday⟩ := h
  have hlength := daysInMonth_le d.year d.month
  have hmark (s : List Char) := readMark_cons (c := '-') (by decide) s
  have hm := readPair_padded (show d.month < 100 by omega) ('-' :: (padded 2 d.day ++ rest))
  have hd := readPair_padded (show d.day < 100 by omega) rest
  rw [dateText, List.append_assoc, List.cons_append, List.append_assoc, List.cons_append, readDate,
    readYear_yearText]
  simp [hmark, hm, hd]

/-- What follows a fraction: no digit, and no point either, since there may be no fraction at all. -/
theorem readFraction_fractionText {nanos : Nat} (h : nanos < nanosPerSecond) {rest : List Char}
    (hdigit : Json.EndsDigits rest) (hpoint : rest.head? ≠ some '.') :
    readFraction (fractionText nanos ++ rest) = some (nanos, rest) := by
  have hrest : rest.dropWhile Char.isDigit = rest := by
    cases rest with
    | nil => rfl
    | cons c rest => exact List.dropWhile_cons_of_neg (by simp [hdigit c rfl])
  have hread {width n : Nat} (hwidth : 0 < width) (hnine : width ≤ 9) (hn : n < 10 ^ width) :
      readFraction ('.' :: padded width n ++ rest) = some (n * 10 ^ (9 - width), rest) := by
    have hlength := length_padded hwidth hn
    have hnumber : readNumber 9 (padded width n ++ rest) = some (n, rest) := by
      rw [readNumber_digits (fun _ => isDigit_padded) (padded_ne_nil width n)
        (.inr ⟨by omega, hdigit⟩), value_padded]
    rw [List.cons_append, readFraction, hnumber]
    simp [hlength, hrest]
  unfold nanosPerSecond at h
  unfold fractionText
  split_ifs with hzero hmillis hmicros
  · rw [hzero, List.nil_append]
    unfold readFraction
    split
    · exact absurd rfl hpoint
    · rfl
  · rw [hread (by decide) (by decide) (by omega)]
    congr 2
    omega
  · rw [hread (by decide) (by decide) (by omega)]
    congr 2
    omega
  · rw [hread (by decide) (by decide) (by omega), Nat.sub_self, Nat.pow_zero, Nat.mul_one]

theorem readClock_clockText {r : Reading} (h : r.IsValid) {rest : List Char}
    (hdigit : Json.EndsDigits rest) (hpoint : rest.head? ≠ some '.') :
    readClock (clockText r ++ rest) = some ((r.hour, r.minute, r.second, r.nanos), rest) := by
  obtain ⟨-, -, -, hhour, hminute, hsecond, hnanos⟩ := h
  have hmark (s : List Char) := readMark_cons (c := ':') (by decide) s
  have hh := readPair_padded (show r.hour < 100 by omega)
    (':' :: (padded 2 r.minute ++ ':' :: (padded 2 r.second ++ (fractionText r.nanos ++ rest))))
  have hm := readPair_padded (show r.minute < 100 by omega)
    (':' :: (padded 2 r.second ++ (fractionText r.nanos ++ rest)))
  have hs := readPair_padded (show r.second < 100 by omega) (fractionText r.nanos ++ rest)
  have hf := readFraction_fractionText hnanos hdigit hpoint
  simp [clockText, readClock, hmark, hh, hm, hs, hf]

/-- What a text says: what a clock shows, and how many minutes that clock is ahead of UTC. -/
def readLocal? (s : List Char) : Option (Reading × Int) := do
  let (date, s) ← readDate s
  let s ← readSeparator s
  let ((hour, minute, second, nanos), s) ← readClock s
  let (offset, s) ← readOffset (skipBlanks s)
  if skipBlanks s = [] then return (⟨date, hour, minute, second, nanos⟩, offset) else none

theorem Instant.read?_eq (s : List Char) :
    Instant.read? s = (readLocal? s).bind fun p => p.1.instant? p.2 := by
  unfold Instant.read? readLocal?
  simp only [Option.bind_eq_bind, Option.bind_assoc]
  congr! 9
  split <;> rfl

/-- An instant is read from a text exactly if the text says what a clock shows at it. -/
theorem Instant.read?_eq_some_iff {s : List Char} {t : Instant} : Instant.read? s = some t ↔
    ∃ r offset, readLocal? s = some (r, offset) ∧ r.IsValid ∧ t.readingAt offset = r := by
  rw [read?_eq, Option.bind_eq_some_iff]
  simp only [Prod.exists, Reading.instant?_eq_some_iff]

theorem readSeparator_mark (s : List Char) : readSeparator ('T' :: s) = some s := rfl

theorem readOffset_utc : readOffset (skipBlanks ['Z']) = some (0, []) := by
  decide

theorem readLocal?_write (t : Instant) : readLocal? t.write = some (t.reading, 0) := by
  have hvalid := Reading.isValid_reading t
  have hclock := readClock_clockText hvalid (Json.endsDigits_cons (show 'Z'.isDigit = false by decide) [])
    (by decide)
  rw [readLocal?, Instant.write, List.append_assoc, readDate_dateText hvalid.2.2.1]
  simp only [Option.bind_eq_bind, Option.bind_some, List.cons_append, readSeparator_mark, hclock,
    readOffset_utc]
  rfl

theorem Instant.read?_write (t : Instant) : Instant.read? t.write = some t :=
  read?_eq_some_iff.2 ⟨t.reading, 0, readLocal?_write t, Reading.isValid_reading t, t.readingAt_zero⟩

structure IsNumeral (width n : Nat) (s : List Char) : Prop where
  length : s.length = width
  digits : ∀ c ∈ s, c.isDigit = true
  value : Nat.ofDigitChars 10 s 0 = n

/-- A year has four digits; one that four digits cannot hold has a sign, and more digits only if it needs
them. -/
inductive IsYear : Int → List Char → Prop
  | plain {n : Nat} {s : List Char} (numeral : IsNumeral 4 n s) : IsYear n s
  | late {width n : Nat} {s : List Char} (numeral : IsNumeral width n s) (limit : 10000 ≤ n)
      (shortest : 10 ^ (width - 1) ≤ n) : IsYear n ('+' :: s)
  | early {width n : Nat} {s : List Char} (numeral : IsNumeral width n s) (limit : 0 < n)
      (shortest : width = 4 ∨ 4 < width ∧ 10 ^ (width - 1) ≤ n) : IsYear (-n) ('-' :: s)

/-- A fraction of a second: nothing, or one, two or three groups of three digits, the last of them not
zero. -/
inductive IsFraction : Nat → List Char → Prop
  | none : IsFraction 0 []
  | groups {count n : Nat} {s : List Char} (some : 1 ≤ count ∧ count ≤ 3)
      (numeral : IsNumeral (3 * count) n s) (shortest : n % 1000 ≠ 0) :
      IsFraction (n * 1000 ^ (3 - count)) ('.' :: s)

/-- Date and time of day, each part with its digits, and the mark of UTC behind them. -/
def IsTimestamp (r : Reading) (s : List Char) : Prop :=
  ∃ year month day hour minute second fraction, IsYear r.date.year year ∧
    IsNumeral 2 r.date.month month ∧ IsNumeral 2 r.date.day day ∧ IsNumeral 2 r.hour hour ∧
    IsNumeral 2 r.minute minute ∧ IsNumeral 2 r.second second ∧ IsFraction r.nanos fraction ∧
    s = year ++ '-' :: month ++ '-' :: day ++ 'T' :: hour ++ ':' :: minute ++ ':' :: second ++
      fraction ++ ['Z']

theorem isNumeral_padded {width n : Nat} (hwidth : 0 < width) (h : n < 10 ^ width) :
    IsNumeral width n (padded width n) :=
  ⟨length_padded hwidth h, fun _ => isDigit_padded, value_padded width n⟩

theorem isNumeral_padded_long {width n : Nat} (h : 10 ^ width ≤ n) :
    ∃ long, width < long ∧ IsNumeral long n (padded width n) ∧ 10 ^ (long - 1) ≤ n := by
  have hpos : 0 < n := Nat.lt_of_lt_of_le (Nat.pow_pos (by decide)) h
  have hlong : width < (Nat.toDigits 10 n).length := by
    by_contra hle
    by_cases hzero : width = 0
    · exact absurd (Nat.length_toDigits_pos (b := 10) (n := n)) (by omega)
    · have := (Nat.length_toDigits_le_iff (b := 10) (by decide) (by omega)).1 (Nat.not_lt.1 hle)
      omega
  refine ⟨(Nat.toDigits 10 n).length, hlong, ⟨?_, fun _ => isDigit_padded, value_padded width n⟩, ?_⟩
  · rw [padded, List.length_append, List.length_replicate]
    omega
  · by_contra hlt
    by_cases hone : (Nat.toDigits 10 n).length = 1
    · rw [hone] at hlt
      omega
    · have := (Nat.length_toDigits_le_iff (b := 10) (by decide) (by omega)).2 (Nat.not_le.1 hlt)
      omega

theorem isYear_yearText (year : Int) : IsYear year (yearText year) := by
  unfold yearText
  split_ifs with hneg hbig
  · have hyear : year = -(year.natAbs : Int) := by omega
    by_cases hlt : year.natAbs < 10 ^ 4
    · have h : IsYear (-(year.natAbs : Int)) ('-' :: padded 4 year.natAbs) :=
        .early (isNumeral_padded (by decide) hlt) (by omega) (.inl rfl)
      rwa [← hyear] at h
    · obtain ⟨width, hwidth, hnumeral, hshort⟩ := isNumeral_padded_long (Nat.not_lt.1 hlt)
      have h : IsYear (-(year.natAbs : Int)) ('-' :: padded 4 year.natAbs) :=
        .early hnumeral (by omega) (.inr ⟨hwidth, hshort⟩)
      rwa [← hyear] at h
  · have hyear : year = (year.natAbs : Int) := by omega
    obtain ⟨width, -, hnumeral, hshort⟩ := isNumeral_padded_long (show 10 ^ 4 ≤ year.natAbs by omega)
    have h : IsYear (year.natAbs : Int) ('+' :: padded 4 year.natAbs) := .late hnumeral (by omega) hshort
    rwa [← hyear] at h
  · have hyear : year = (year.natAbs : Int) := by omega
    have h : IsYear (year.natAbs : Int) (padded 4 year.natAbs) :=
      .plain (isNumeral_padded (by decide) (by omega))
    rwa [← hyear] at h

theorem isFraction_fractionText {nanos : Nat} (h : nanos < nanosPerSecond) :
    IsFraction nanos (fractionText nanos) := by
  have hgroups (count : Nat) {n : Nat} (hcount : 1 ≤ count ∧ count ≤ 3) (hn : n < 10 ^ (3 * count))
      (hshort : n % 1000 ≠ 0) (hnanos : nanos = n * 1000 ^ (3 - count)) :
      IsFraction nanos ('.' :: padded (3 * count) n) :=
    hnanos ▸ .groups hcount (isNumeral_padded (by omega) hn) hshort
  unfold nanosPerSecond at h
  unfold fractionText
  split_ifs with hzero hmillis hmicros
  · rw [hzero]
    exact .none
  · exact hgroups 1 (by decide) (by omega) (by omega) (by omega)
  · exact hgroups 2 (by decide) (by omega) (by omega) (by omega)
  · exact hgroups 3 (by decide) (by omega) (by omega) (by omega)

theorem two_digits_hold {r : Reading} (h : r.IsValid) : r.date.month < 10 ^ 2 ∧ r.date.day < 10 ^ 2 ∧
    r.hour < 10 ^ 2 ∧ r.minute < 10 ^ 2 ∧ r.second < 10 ^ 2 := by
  obtain ⟨-, -, ⟨-, hmonth, -, hday⟩, hhour, hminute, hsecond, -⟩ := h
  have hlength := daysInMonth_le r.date.year r.date.month
  omega

theorem isTimestamp_write (t : Instant) : IsTimestamp t.reading t.write := by
  have hvalid := Reading.isValid_reading t
  obtain ⟨hmonth, hday, hhour, hminute, hsecond⟩ := two_digits_hold hvalid
  obtain ⟨-, -, -, -, -, -, hnanos⟩ := hvalid
  refine ⟨_, _, _, _, _, _, _, isYear_yearText _, isNumeral_padded (by decide) hmonth,
    isNumeral_padded (by decide) hday, isNumeral_padded (by decide) hhour,
    isNumeral_padded (by decide) hminute, isNumeral_padded (by decide) hsecond,
    isFraction_fractionText hnanos, ?_⟩
  simp [Instant.write, dateText, clockText]

end Dispatch.Time
