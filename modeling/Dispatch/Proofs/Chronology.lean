import Dispatch.Proofs.Escapes
import Dispatch.Proofs.Timestamp

namespace Dispatch

namespace Text

variable {a b : Char} {s t : List Char}

/-- The order of texts that are compared code point by code point. -/
def Precedes : List Char → List Char → Prop := List.Lex fun a b => a.toNat < b.toNat

theorem precedes_cons : Precedes (a :: s) (b :: t) ↔ a.toNat < b.toNat ∨ a = b ∧ Precedes s t :=
  List.cons_lex_cons_iff

theorem precedes_irrefl (s : List Char) : ¬ Precedes s s :=
  List.lex_irrefl (fun a => Nat.lt_irrefl a.toNat) s

theorem precedes_append (u : List Char) : Precedes (u ++ s) (u ++ t) ↔ Precedes s t := by
  induction u with
  | nil => exact Iff.rfl
  | cons a u ih => simp [precedes_cons, ih]

theorem eq_iff_not_precedes : s = t ↔ ¬ Precedes s t ∧ ¬ Precedes t s := by
  constructor
  · rintro rfl
    exact ⟨precedes_irrefl s, precedes_irrefl s⟩
  · rintro ⟨h, h'⟩
    refine List.lex_trichotomous (fun a b hab hba => ?_) h' h
    exact Char.toNat_inj.1 (Nat.le_antisymm (Nat.not_lt.1 hba) (Nat.not_lt.1 hab))

end Text

theorem Text.Utf8.length_encode_eq {s : List Char} (h : ∀ c ∈ s, c.utf8Size = 1) :
    (Utf8.encode s).length = s.length := by
  induction s with
  | nil => rfl
  | cons c s ih =>
      obtain ⟨hc, hs⟩ := List.forall_mem_cons.1 h
      rw [length_encode_cons, hc, ih hs, List.length_cons, Nat.add_comm]

namespace Time

open Text

theorem IsNumeral.uncons {width n : Nat} {s : List Char} (h : IsNumeral (width + 1) n s) :
    ∃ c rest m, s = c :: rest ∧ 48 ≤ c.toNat ∧ c.toNat < 58 ∧ IsNumeral width m rest ∧
      n = (c.toNat - 48) * 10 ^ width + m := by
  obtain ⟨c, rest, rfl⟩ := List.exists_cons_of_length_eq_add_one h.length
  obtain ⟨hc, hrest⟩ := List.forall_mem_cons.1 h.digits
  have hlength : rest.length = width := Nat.succ_injective h.length
  have hvalue := h.value
  rw [Nat.ofDigitChars_cons, Nat.ofDigitChars_eq_ofDigitChars_zero, hlength, Nat.mul_zero,
    Nat.zero_add, Nat.mul_comm] at hvalue
  simp only [Char.isDigit, Bool.and_eq_true, decide_eq_true_eq, ge_iff_le, UInt32.le_iff_toNat_le] at hc
  exact ⟨c, rest, _, rfl, hc.1, Nat.lt_succ_of_le hc.2, ⟨hlength, hrest, rfl⟩, hvalue.symm⟩

theorem leading_lt {a b m unit : Nat} (h : a < b) (hm : m < unit) (m' : Nat) :
    a * unit + m < b * unit + m' := by
  have hnext : (a + 1) * unit ≤ b * unit := Nat.mul_le_mul_right unit h
  rw [Nat.succ_mul] at hnext
  omega

theorem IsNumeral.lt {width n : Nat} {s : List Char} (h : IsNumeral width n s) : n < 10 ^ width := by
  induction width generalizing n s with
  | zero =>
      obtain rfl := List.eq_nil_of_length_eq_zero h.length
      exact h.value ▸ Nat.one_pos
  | succ width ih =>
      obtain ⟨c, rest, m, -, -, hc, hrest, rfl⟩ := h.uncons
      have hlead := leading_lt (show c.toNat - 48 < 10 by omega) (ih hrest) 0
      rwa [Nat.pow_succ, Nat.mul_comm _ 10]

/-- Numbers with as many digits are in the order of their digits; what follows decides between equal
ones. -/
theorem IsNumeral.precedes_append {width n n' : Nat} {s s' : List Char} (h : IsNumeral width n s)
    (h' : IsNumeral width n' s') (u u' : List Char) :
    Precedes (s ++ u) (s' ++ u') ↔ n < n' ∨ n = n' ∧ Precedes u u' := by
  induction width generalizing n n' s s' with
  | zero =>
      obtain rfl := List.eq_nil_of_length_eq_zero h.length
      obtain rfl := List.eq_nil_of_length_eq_zero h'.length
      obtain rfl : n = n' := h.value.symm.trans h'.value
      simp
  | succ width ih =>
      obtain ⟨c, rest, m, rfl, hc, -, hrest, rfl⟩ := h.uncons
      obtain ⟨c', rest', m', rfl, hc', -, hrest', rfl⟩ := h'.uncons
      rw [List.cons_append, List.cons_append, precedes_cons, ih hrest hrest']
      -- a digit outweighs all that follow it
      rcases Nat.lt_trichotomy c.toNat c'.toNat with hlt | heq | hgt
      · have hlead := leading_lt (show c.toNat - 48 < c'.toNat - 48 by omega) hrest.lt m'
        exact iff_of_true (.inl hlt) (.inl hlead)
      · obtain rfl := Char.toNat_inj.1 heq
        simp
      · have hlead := leading_lt (show c'.toNat - 48 < c.toNat - 48 by omega) hrest'.lt m
        have hne : c ≠ c' := fun he => Nat.lt_irrefl _ (he ▸ hgt)
        refine iff_of_false ?_ ?_
        · simp [hne, Nat.le_of_lt hgt]
        · omega

/-- `r` is shown before `r'`: the date decides, then hour, minute, second and millisecond. -/
def Reading.Before (r r' : Reading) : Prop :=
  r.date.Before r'.date ∨ r.date = r'.date ∧ (r.hour < r'.hour ∨ r.hour = r'.hour ∧
    (r.minute < r'.minute ∨ r.minute = r'.minute ∧ (r.second < r'.second ∨ r.second = r'.second ∧
      r.nanos / 1000000 < r'.nanos / 1000000)))

/-- `t` is in an earlier millisecond than `t'`: the second decides, then the milliseconds in it, which
count on to 1999 in a leap second. -/
def Instant.Before (t t' : Instant) : Prop :=
  t.seconds < t'.seconds ∨ t.seconds = t'.seconds ∧ t.millis < t'.millis

/-- Seconds of a day and nanoseconds, as a clock shows them: the leap second is the sixtieth of its minute,
and the minute ends with it. -/
theorem clock_before_iff {a a' n n' : Nat} (hn : n < 2 * nanosPerSecond) (hn' : n' < 2 * nanosPerSecond)
    (hleap : nanosPerSecond ≤ n → a % 60 = 59) (hleap' : nanosPerSecond ≤ n' → a' % 60 = 59) :
    (a / 3600 < a' / 3600 ∨ a / 3600 = a' / 3600 ∧ (a / 60 % 60 < a' / 60 % 60 ∨
      a / 60 % 60 = a' / 60 % 60 ∧ (a % 60 + n / nanosPerSecond < a' % 60 + n' / nanosPerSecond ∨
        a % 60 + n / nanosPerSecond = a' % 60 + n' / nanosPerSecond ∧
          n % nanosPerSecond / 1000000 < n' % nanosPerSecond / 1000000))) ↔
      a < a' ∨ a = a' ∧ n / 1000000 < n' / 1000000 := by
  -- only a second 59 counts on, so that no minute runs into the next
  unfold nanosPerSecond at *
  omega

theorem Instant.reading_before_iff {t t' : Instant} : t.reading.Before t'.reading ↔ t.Before t' := by
  obtain ⟨a, ha, hofDay, hsum⟩ := seconds_join t.seconds
  obtain ⟨a', ha', hofDay', hsum'⟩ := seconds_join t'.seconds
  have hclock := clock_before_iff t.nanos_lt t'.nanos_lt (fun h => second_of_sum hsum (t.leap h))
    fun h => second_of_sum hsum' (t'.leap h)
  unfold Reading.Before reading
  simp only [Date.ofDays_before_iff, Date.ofDays_inj, hofDay, hofDay', hclock]
  unfold Before millis
  unfold secondsPerDay at *
  omega

/-- Year, month, day, hour, minute, second and milliseconds, each with its digits, between dashes. -/
def IsStamp (r : Reading) (s : List Char) : Prop :=
  ∃ year month day hour minute second millis, IsYear r.date.year year ∧ IsNumeral 2 r.date.month month ∧
    IsNumeral 2 r.date.day day ∧ IsNumeral 2 r.hour hour ∧ IsNumeral 2 r.minute minute ∧
    IsNumeral 2 r.second second ∧ IsNumeral 3 (r.nanos / 1000000) millis ∧
    s = year ++ '-' :: (month ++ '-' :: (day ++ '-' :: (hour ++ '-' :: (minute ++ '-' ::
      (second ++ '-' :: millis)))))

theorem isStamp_stamp (t : Instant) : IsStamp t.reading t.stamp := by
  have hvalid := Reading.isValid_reading t
  obtain ⟨hmonth, hday, hhour, hminute, hsecond⟩ := two_digits_hold hvalid
  have hmillis : t.reading.nanos / 1000000 < 10 ^ 3 := by
    obtain ⟨-, -, -, -, -, -, hnanos⟩ := hvalid
    unfold nanosPerSecond at hnanos
    omega
  refine ⟨_, _, _, _, _, _, _, isYear_yearText _, isNumeral_padded (by decide) hmonth,
    isNumeral_padded (by decide) hday, isNumeral_padded (by decide) hhour,
    isNumeral_padded (by decide) hminute, isNumeral_padded (by decide) hsecond,
    isNumeral_padded (by decide) hmillis, ?_⟩
  simp [Instant.stamp, dateText]

def Instant.HasFourDigitYear (t : Instant) : Prop :=
  0 ≤ t.reading.date.year ∧ t.reading.date.year ≤ 9999

instance (t : Instant) : Decidable t.HasFourDigitYear := inferInstanceAs (Decidable (_ ∧ _))

theorem IsYear.isNumeral {year : Int} {s : List Char} (h : IsYear year s) (hfirst : 0 ≤ year)
    (hlast : year ≤ 9999) : IsNumeral 4 year.toNat s := by
  cases h with
  | plain hnumeral => exact hnumeral
  | late hnumeral hlimit hshortest => omega
  | early hnumeral hlimit hshortest => omega

theorem IsNumeral.precedes_field {width n n' : Nat} {s s' : List Char} (h : IsNumeral width n s)
    (h' : IsNumeral width n' s') (u u' : List Char) :
    Precedes (s ++ '-' :: u) (s' ++ '-' :: u') ↔ n < n' ∨ n = n' ∧ Precedes u u' := by
  rw [h.precedes_append h', precedes_cons]
  simp

/-- Stamps of years that have four digits are in the order of the instants. -/
theorem stamp_precedes_iff {t t' : Instant} (h : t.HasFourDigitYear) (h' : t'.HasFourDigitYear) :
    Precedes t.stamp t'.stamp ↔ t.Before t' := by
  obtain ⟨_, _, _, _, _, _, _, hyear, hmonth, hday, hhour, hminute, hsecond, hmillis, heq⟩ :=
    isStamp_stamp t
  obtain ⟨_, _, _, _, _, _, _, hyear', hmonth', hday', hhour', hminute', hsecond', hmillis', heq'⟩ :=
    isStamp_stamp t'
  -- part by part, as all of them have as many digits; nothing stands behind the last one
  have hfirst := (hyear.isNumeral h.1 h.2).precedes_field (hyear'.isNumeral h'.1 h'.2)
  have hlast := hmillis.precedes_append hmillis' [] []
  obtain ⟨hnonneg, -⟩ := h
  obtain ⟨hnonneg', -⟩ := h'
  simp only [List.append_nil, precedes_irrefl, and_false, or_false] at hlast
  rw [← Instant.reading_before_iff, heq, heq', hfirst, hmonth.precedes_field hmonth',
    hday.precedes_field hday', hhour.precedes_field hhour', hminute.precedes_field hminute',
    hsecond.precedes_field hsecond', hlast, Reading.Before, Date.Before, Date.eq_iff]
  omega

theorem IsYear.length_le {year : Int} {s : List Char} (h : IsYear year s) (hfirst : minYear ≤ year)
    (hlast : year ≤ maxYear) : s.length ≤ 7 := by
  unfold minYear at hfirst
  unfold maxYear at hlast
  have few {width n : Nat} (hshortest : 10 ^ (width - 1) ≤ n) (hn : n < 10 ^ 6) : width ≤ 6 := by
    have := (Nat.pow_lt_pow_iff_right (by decide)).1 (Nat.lt_of_le_of_lt hshortest hn)
    omega
  cases h with
  | plain hnumeral =>
      rw [hnumeral.length]
      decide
  | late hnumeral hlimit hshortest =>
      rw [List.length_cons, hnumeral.length]
      have := few hshortest (by omega)
      omega
  | early hnumeral hlimit hshortest =>
      rw [List.length_cons, hnumeral.length]
      rcases hshortest with rfl | ⟨-, hshortest⟩
      · decide
      · have := few hshortest (by omega)
        omega

theorem length_stamp_le (t : Instant) : t.stamp.length ≤ 26 := by
  obtain ⟨_, _, _, _, _, _, _, hyear, hmonth, hday, hhour, hminute, hsecond, hmillis, heq⟩ :=
    isStamp_stamp t
  obtain ⟨hfirst, hlast, -⟩ := Reading.isValid_reading t
  have := hyear.length_le hfirst hlast
  simp only [heq, List.length_append, List.length_cons, hmonth.length, hday.length, hhour.length,
    hminute.length, hsecond.length, hmillis.length]
  omega

theorem length_stamp {t : Instant} (h : t.HasFourDigitYear) : t.stamp.length = 23 := by
  obtain ⟨_, _, _, _, _, _, _, hyear, hmonth, hday, hhour, hminute, hsecond, hmillis, heq⟩ :=
    isStamp_stamp t
  simp only [heq, List.length_append, List.length_cons, (hyear.isNumeral h.1 h.2).length, hmonth.length,
    hday.length, hhour.length, hminute.length, hsecond.length, hmillis.length]

theorem IsNumeral.utf8Size {width n : Nat} {s : List Char} (h : IsNumeral width n s) :
    ∀ c ∈ s, c.utf8Size = 1 := by
  intro c hc
  have hdigit := h.digits c hc
  simp only [Char.isDigit, Bool.and_eq_true, decide_eq_true_eq, UInt32.le_iff_toNat_le] at hdigit
  rw [Char.utf8Size_eq_one_iff, UInt32.le_iff_toNat_le]
  exact Nat.le_trans hdigit.2 (by decide)

theorem IsYear.utf8Size {year : Int} {s : List Char} (h : IsYear year s) :
    ∀ c ∈ s, c.utf8Size = 1 := by
  cases h with
  | plain hnumeral => exact hnumeral.utf8Size
  | late hnumeral hlimit hshortest => exact List.forall_mem_cons.2 ⟨rfl, hnumeral.utf8Size⟩
  | early hnumeral hlimit hshortest => exact List.forall_mem_cons.2 ⟨rfl, hnumeral.utf8Size⟩

theorem length_encode_stamp (t : Instant) : (Utf8.encode t.stamp).length = t.stamp.length := by
  obtain ⟨_, _, _, _, _, _, _, hyear, hmonth, hday, hhour, hminute, hsecond, hmillis, heq⟩ :=
    isStamp_stamp t
  have hdash : '-'.utf8Size = 1 := rfl
  apply Utf8.length_encode_eq
  simp only [heq, List.forall_mem_append, List.forall_mem_cons, hdash, true_and]
  exact ⟨hyear.utf8Size, hmonth.utf8Size, hday.utf8Size, hhour.utf8Size, hminute.utf8Size,
    hsecond.utf8Size, hmillis.utf8Size⟩

end Time

end Dispatch
