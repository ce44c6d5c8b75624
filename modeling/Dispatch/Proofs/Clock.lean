import Dispatch.Proofs.Calendar
import Dispatch.Time.Instant

namespace Dispatch.Time

namespace Instant

/-- What a clock shows that is `offset` minutes ahead of UTC. -/
def readingAt (t : Instant) (offset : Int) : Reading :=
  let seconds := t.seconds + offset * 60
  let ofDay := (seconds % secondsPerDay).toNat
  { date := Date.ofDays (seconds / secondsPerDay)
    hour := ofDay / 3600
    minute := ofDay / 60 % 60
    second := ofDay % 60 + t.nanos / nanosPerSecond
    nanos := t.nanos % nanosPerSecond }

theorem readingAt_zero (t : Instant) : t.readingAt 0 = t.reading := by
  rw [readingAt, Int.zero_mul, Int.add_zero]
  rfl

theorem of?_eq_some_iff {seconds : Int} {nanos : Nat} {t : Instant} :
    of? seconds nanos = some t ↔ t.seconds = seconds ∧ t.nanos = nanos := by
  unfold of?
  constructor
  · intro h
    split at h
    · cases h
      exact ⟨rfl, rfl⟩
    · cases h
  · rintro ⟨rfl, rfl⟩
    rw [dif_pos ⟨t.min_le, t.le_max, t.nanos_lt, t.leap⟩]

theorem seconds_split {n days : Int} {ofDay : Nat} (hlt : ofDay < secondsPerDay)
    (h : n = days * secondsPerDay + ofDay) :
    n / secondsPerDay = days ∧ (n % secondsPerDay).toNat = ofDay := by
  unfold secondsPerDay at *
  omega

theorem seconds_join (n : Int) : ∃ ofDay : Nat, ofDay < secondsPerDay ∧
    (n % secondsPerDay).toNat = ofDay ∧ n = n / secondsPerDay * secondsPerDay + ofDay := by
  refine ⟨(n % secondsPerDay).toNat, ?_, rfl, ?_⟩ <;> unfold secondsPerDay <;> omega

theorem second_of_sum {n days : Int} {ofDay : Nat} (hsum : n = days * secondsPerDay + ofDay)
    (h : n % 60 = 59) : ofDay % 60 = 59 := by
  unfold secondsPerDay at hsum
  omega

end Instant

namespace Reading

/-- A second and its fraction, as a clock shows them: the leap second is a second beyond the last. -/
theorem second_split {second nanos : Nat} (hsecond : second ≤ 60) (hnanos : nanos < nanosPerSecond) :
    min second 59 + ((if second = 60 then nanosPerSecond else 0) + nanos) / nanosPerSecond = second ∧
      ((if second = 60 then nanosPerSecond else 0) + nanos) % nanosPerSecond = nanos := by
  unfold nanosPerSecond at *
  split <;> omega

theorem second_join {second nanos : Nat} (hsecond : second < 60) (hnanos : nanos < 2 * nanosPerSecond)
    (hleap : nanosPerSecond ≤ nanos → second = 59) :
    min (second + nanos / nanosPerSecond) 59 = second ∧
      (if second + nanos / nanosPerSecond = 60 then nanosPerSecond else 0) + nanos % nanosPerSecond =
        nanos := by
  unfold nanosPerSecond at *
  split <;> omega

/-- A clock shows something at one instant only, and shows it there. -/
theorem instant?_eq_some_iff {r : Reading} {offset : Int} {t : Instant} :
    r.instant? offset = some t ↔ r.IsValid ∧ t.readingAt offset = r := by
  unfold instant?
  constructor
  · intro h
    split at h
    · next hr =>
        refine ⟨hr, ?_⟩
        obtain ⟨-, -, hdate, hhour, hminute, hsecond, hnanos⟩ := hr
        obtain ⟨hseconds, hn⟩ := Instant.of?_eq_some_iff.1 h
        have hsum : t.seconds + offset * 60 = r.date.toDays * secondsPerDay +
            (r.hour * 3600 + r.minute * 60 + min r.second 59 : Nat) := by
          rw [hseconds]
          exact Int.sub_add_cancel ..
        have hlt : r.hour * 3600 + r.minute * 60 + min r.second 59 < secondsPerDay := by
          unfold secondsPerDay
          omega
        obtain ⟨hdays, hofDay⟩ := Instant.seconds_split hlt hsum
        have hparts : (r.hour * 3600 + r.minute * 60 + min r.second 59) / 3600 = r.hour ∧
            (r.hour * 3600 + r.minute * 60 + min r.second 59) / 60 % 60 = r.minute ∧
            (r.hour * 3600 + r.minute * 60 + min r.second 59) % 60 = min r.second 59 := by
          clear hsum hseconds
          omega
        obtain ⟨hsplit, hrest⟩ := second_split hsecond hnanos
        rw [Instant.readingAt, hdays, hofDay, Date.ofDays_toDays hdate, hparts.1, hparts.2.1, hparts.2.2,
          hn, hsplit, hrest]
    · cases h
  · rintro ⟨hr, rfl⟩
    rw [if_pos hr, Instant.of?_eq_some_iff]
    obtain ⟨ofDay, hlt, hofDay, hsum⟩ := Instant.seconds_join (t.seconds + offset * 60)
    have hleap : nanosPerSecond ≤ t.nanos → ofDay % 60 = 59 := by
      intro h
      have := t.leap h
      exact Instant.second_of_sum hsum (by omega)
    obtain ⟨hmin, hnanos⟩ := second_join (Nat.mod_lt ofDay (by decide)) t.nanos_lt hleap
    unfold Instant.readingAt
    simp only [hofDay, Date.toDays_ofDays, hmin, hnanos, and_true]
    unfold secondsPerDay at *
    omega

theorem isValid_reading (t : Instant) : t.reading.IsValid := by
  have hdate := Date.ofDays_isValid (t.seconds / secondsPerDay)
  have hfirst : (⟨minYear, 1, 1⟩ : Date).toDays ≤ (Date.ofDays (t.seconds / secondsPerDay)).toDays := by
    rw [Date.toDays_ofDays]
    exact Int.le_ediv_of_mul_le (by decide) t.min_le
  have hlast :
      (Date.ofDays (t.seconds / secondsPerDay)).toDays ≤ (⟨maxYear, 12, 31⟩ : Date).toDays := by
    rw [Date.toDays_ofDays]
    have := t.le_max
    unfold maxSeconds secondsPerDay at this
    unfold secondsPerDay
    omega
  obtain ⟨ofDay, hlt, hofDay, -⟩ := Instant.seconds_join t.seconds
  have hnanos := t.nanos_lt
  refine ⟨Date.year_le_of_toDays_le (by decide) hdate hfirst,
    Date.year_le_of_toDays_le hdate (by decide) hlast, hdate, ?_⟩
  unfold Instant.reading
  simp only [hofDay]
  unfold secondsPerDay nanosPerSecond at *
  omega

end Reading

end Dispatch.Time
