import Mathlib.Order.Monotone.Basic
import Mathlib.Tactic.IntervalCases
import Dispatch.Time.Calendar

namespace Dispatch.Time

theorem daysInMonth_le (year : Int) (month : Nat) : daysInMonth year month ≤ 31 := by
  unfold daysInMonth
  split
  · split <;> decide
  all_goals decide

theorem one_le_daysInMonth (year : Int) (month : Nat) : 1 ≤ daysInMonth year month := by
  unfold daysInMonth
  split
  · split <;> decide
  all_goals decide

/-- Days from the first of March of the year 0 to the first of March of another year. -/
def daysBeforeYear (year : Int) : Int := 365 * year + year / 4 - year / 100 + year / 400

def daysBeforeMonth (month : Nat) : Nat := (153 * ((month + 9) % 12) + 2) / 5

theorem daysBeforeMonth_succ (year : Int) {month : Nat} (h : 1 ≤ month) (hlast : month < 12)
    (hfebruary : month ≠ 2) :
    daysBeforeMonth (month + 1) = daysBeforeMonth month + daysInMonth year month := by
  interval_cases month <;> first | rfl | exact absurd rfl hfebruary

def monthFromMarch (n : Nat) : Nat := if n < 10 then n + 3 else n - 9

theorem daysBeforeMonth_monthFromMarch {n : Nat} (h : n < 12) :
    daysBeforeMonth (monthFromMarch n) = (153 * n + 2) / 5 := by
  have hback : (monthFromMarch n + 9) % 12 = n := by
    unfold monthFromMarch
    split <;> omega
  rw [daysBeforeMonth, hback]

theorem daysBeforeYear_succ (year : Int) :
    daysBeforeYear (year + 1) = daysBeforeYear year + if isLeapYear (year + 1) then 366 else 365 := by
  unfold daysBeforeYear isLeapYear
  split <;> rename_i h <;> simp at h <;> omega

theorem daysBeforeYear_add_le {a b : Int} (h : a < b) :
    daysBeforeYear a + 365 ≤ daysBeforeYear b := by
  -- the years without a leap day are every twenty-fifth of the fourth ones, so no step is negative
  have ha : a / 100 = a / 4 / 25 ∧ a / 400 = a / 4 / 25 / 4 := by omega
  have hb : b / 100 = b / 4 / 25 ∧ b / 400 = b / 4 / 25 / 4 := by omega
  unfold daysBeforeYear
  omega

theorem daysBeforeYear_mono {a b : Int} (h : a ≤ b) : daysBeforeYear a ≤ daysBeforeYear b := by
  rcases h.eq_or_lt with rfl | h
  · exact Int.le_refl _
  · exact Int.le_trans (by omega) (daysBeforeYear_add_le h)

namespace Date

def marchYear (d : Date) : Int := if d.month ≤ 2 then d.year - 1 else d.year

def daysIntoYear (d : Date) : Nat := daysBeforeMonth d.month + d.day - 1

theorem toDays_eq (d : Date) :
    d.toDays = daysBeforeYear d.marchYear + d.daysIntoYear - epochOffset := by
  change d.marchYear / 400 * daysPerEra + _ - _ = _
  obtain ⟨n, hn, hlt⟩ : ∃ n : Nat, d.marchYear % 400 = n ∧ n < 400 :=
    ⟨(d.marchYear % 400).toNat, by omega, by omega⟩
  have hyear : d.marchYear = 400 * (d.marchYear / 400) + n := by omega
  change d.marchYear / 400 * daysPerEra + (((d.marchYear % 400).toNat * 365 +
    (d.marchYear % 400).toNat / 4 - (d.marchYear % 400).toNat / 100 + d.daysIntoYear : Nat) : Int) - _ = _
  rw [hn, Int.toNat_natCast, daysBeforeYear, daysPerEra]
  generalize d.marchYear / 400 = era at hyear
  have hfour : (400 * era + n) / 4 = 100 * era + n / 4 := by omega
  have hhundred : (400 * era + n) / 100 = 4 * era + n / 100 := by omega
  rw [hyear, hfour, hhundred]
  omega

theorem IsValid.daysIntoYear_lt {d : Date} (h : d.IsValid) :
    d.daysIntoYear < (153 * ((d.month + 9) % 12 + 1) + 2) / 5 ∧
      daysBeforeYear d.marchYear + d.daysIntoYear < daysBeforeYear (d.marchYear + 1) := by
  obtain ⟨year, month, day⟩ := d
  obtain ⟨hmonth, hmonth', hday, hday'⟩ := h
  have hyear := daysBeforeYear_add_le (Int.lt_succ (marchYear ⟨year, month, day⟩))
  have hleap := daysBeforeYear_succ (marchYear ⟨year, month, day⟩)
  unfold daysIntoYear daysBeforeMonth
  unfold marchYear at hyear hleap ⊢
  dsimp only at *
  interval_cases month <;> simp only [daysInMonth, Nat.reduceLeDiff, if_true, if_false,
    Int.sub_add_cancel] at hday' hyear hleap ⊢ <;> split_ifs at hleap hday' <;> omega

/-- `d` comes before `d'`: the year decides, then the month, then the day. -/
def Before (d d' : Date) : Prop :=
  d.year < d'.year ∨ d.year = d'.year ∧
    (d.month < d'.month ∨ d.month = d'.month ∧ d.day < d'.day)

theorem toDays_lt {d d' : Date} (hd : d.IsValid) (hd' : d'.IsValid) (h : d.Before d') :
    d.toDays < d'.toDays := by
  obtain ⟨hmonth, hyear⟩ := hd.daysIntoYear_lt
  have hinto : d.daysIntoYear = daysBeforeMonth d.month + d.day - 1 := rfl
  have hinto' : d'.daysIntoYear = daysBeforeMonth d'.month + d'.day - 1 := rfl
  obtain ⟨h₁, h₂, h₃, -⟩ := hd
  obtain ⟨h₁', h₂', h₃', -⟩ := hd'
  rw [toDays_eq, toDays_eq]
  by_cases hmarch : d.marchYear < d'.marchYear
  · have hnext := daysBeforeYear_mono (Int.add_one_le_of_lt hmarch)
    omega
  · -- both are in one year, so the months from March on decide, and then the days
    obtain ⟨hsame, hlater⟩ : d.marchYear = d'.marchYear ∧
        ((d.month + 9) % 12 < (d'.month + 9) % 12 ∨ d.month = d'.month ∧ d.day < d'.day) := by
      unfold marchYear at hmarch ⊢
      unfold Before at h
      split_ifs at hmarch ⊢ <;> omega
    rw [hsame]
    rcases hlater with hlater | ⟨hsame, hlater⟩
    · unfold daysBeforeMonth at hinto'
      omega
    · rw [hsame] at hinto
      omega

theorem year_le_of_toDays_le {d d' : Date} (hd : d.IsValid) (hd' : d'.IsValid)
    (h : d.toDays ≤ d'.toDays) : d.year ≤ d'.year :=
  Int.not_lt.1 fun hlt => Int.not_lt.2 h (toDays_lt hd' hd (.inl hlt))

theorem eq_iff {d d' : Date} : d = d' ↔ d.year = d'.year ∧ d.month = d'.month ∧ d.day = d'.day := by
  cases d
  cases d'
  simp

theorem before_or_before {d d' : Date} (h : d ≠ d') : d.Before d' ∨ d'.Before d := by
  rw [ne_eq, eq_iff] at h
  unfold Before
  omega

theorem toDays_injective {d d' : Date} (hd : d.IsValid) (hd' : d'.IsValid) (h : d.toDays = d'.toDays) :
    d = d' := by
  by_contra hne
  rcases before_or_before hne with hbefore | hafter
  · exact Int.ne_of_lt (toDays_lt hd hd' hbefore) h
  · exact Int.ne_of_lt (toDays_lt hd' hd hafter) h.symm

def ofMarch (year : Int) (days : Nat) : Date :=
  let month := monthFromMarch ((5 * days + 2) / 153)
  { year := if month ≤ 2 then year + 1 else year
    month
    day := days - (153 * ((5 * days + 2) / 153) + 2) / 5 + 1 }

section OfMarch

variable {year : Int} {days : Nat} (h : daysBeforeYear year + days < daysBeforeYear (year + 1))

include h

theorem ofMarch_toDays : (ofMarch year days).toDays = daysBeforeYear year + days - epochOffset := by
  have hyear := daysBeforeYear_succ year
  have hmarch : (ofMarch year days).marchYear = year := by
    unfold marchYear ofMarch
    dsimp only
    split_ifs <;> omega
  have hinto : (ofMarch year days).daysIntoYear = days := by
    unfold daysIntoYear ofMarch
    dsimp only
    rw [daysBeforeMonth_monthFromMarch (by split_ifs at hyear <;> omega)]
    omega
  rw [toDays_eq, hmarch, hinto]

theorem ofMarch_isValid : (ofMarch year days).IsValid := by
  have hyear := daysBeforeYear_succ year
  have hlt : (5 * days + 2) / 153 < 12 := by split_ifs at hyear <;> omega
  unfold IsValid ofMarch monthFromMarch
  generalize hmonth : (5 * days + 2) / 153 = month at *
  interval_cases month <;> simp [daysInMonth] <;> split_ifs at * <;> omega

end OfMarch

end Date

def daysBeforeYearOfEra (year : Nat) : Nat := 365 * year + year / 4 - year / 100 + year / 400

def yearOfEra (day : Nat) : Nat := (day - day / 1460 + day / 36524 - day / 146096) / 365

theorem sub_div_mono (k : Nat) : Monotone fun n => n - n / (k + 1) := by
  refine monotone_nat_of_le_succ fun n => ?_
  have hstep : (n + 1) / (k + 1) ≤ n / (k + 1) + 1 := by
    rw [Nat.succ_div]
    split <;> omega
  have hle := Nat.div_le_self n (k + 1)
  omega

theorem yearOfEra_mono : Monotone yearOfEra := by
  intro a b h
  apply Nat.div_le_div_right
  have hfour : a - a / 1460 ≤ b - b / 1460 := sub_div_mono 1459 h
  have hcentury : a / 36524 - a / 36524 / 4 ≤ b / 36524 - b / 36524 / 4 :=
    sub_div_mono 3 (Nat.div_le_div_right h)
  have ha : a / 146096 = a / 36524 / 4 := by omega
  have hb : b / 146096 = b / 36524 / 4 := by omega
  omega

/-- As the year grows with the day, its first and its last day decide. -/
theorem yearOfEra_ends : ∀ year < 400, yearOfEra (daysBeforeYearOfEra year) = year ∧
    yearOfEra (daysBeforeYearOfEra (year + 1) - 1) = year := by decide +kernel

theorem yearOfEra_bounds {day : Nat} (h : day < daysPerEra) : yearOfEra day < 400 ∧
    daysBeforeYearOfEra (yearOfEra day) ≤ day ∧ day < daysBeforeYearOfEra (yearOfEra day + 1) := by
  have hlt : yearOfEra day < 400 := by
    have hlast : yearOfEra 146096 = 399 := by decide
    have := yearOfEra_mono (Nat.le_of_lt_succ h)
    omega
  refine ⟨hlt, ?_, ?_⟩
  · by_contra hbefore
    obtain ⟨year, hyear⟩ : ∃ year, yearOfEra day = year + 1 := by
      refine Nat.exists_eq_succ_of_ne_zero fun hzero => hbefore ?_
      rw [hzero]
      exact Nat.zero_le day
    rw [hyear] at hbefore hlt
    have hends := (yearOfEra_ends year (by omega)).2
    have := yearOfEra_mono (show day ≤ daysBeforeYearOfEra (year + 1) - 1 by omega)
    omega
  · by_contra hafter
    by_cases hlast : yearOfEra day = 399
    · rw [hlast] at hafter
      exact hafter h
    · have hends := (yearOfEra_ends (yearOfEra day + 1) (by omega)).1
      have := yearOfEra_mono (Nat.le_of_not_lt hafter)
      omega

/-- The date of a day is so many days into a year as the day is behind the start of that year. -/
theorem ofDays_eq (days : Int) : ∃ (year : Int) (n : Nat),
    days = daysBeforeYear year + n - epochOffset ∧
    daysBeforeYear year + n < daysBeforeYear (year + 1) ∧ Date.ofDays days = Date.ofMarch year n := by
  obtain ⟨day, hday, hlt⟩ :
      ∃ day : Nat, (days + epochOffset) % daysPerEra = day ∧ day < daysPerEra := by
    refine ⟨((days + epochOffset) % daysPerEra).toNat, ?_, ?_⟩ <;> unfold daysPerEra <;> omega
  have hdays := Int.mul_ediv_add_emod (days + epochOffset) daysPerEra
  obtain ⟨hyear, hfirst, hlast⟩ := yearOfEra_bounds hlt
  have hera : daysBeforeYearOfEra (yearOfEra day) =
      365 * yearOfEra day + yearOfEra day / 4 - yearOfEra day / 100 := by
    unfold daysBeforeYearOfEra
    omega
  have hofDays : Date.ofDays days = Date.ofMarch ((days + epochOffset) / daysPerEra * 400 + yearOfEra day)
      (day - daysBeforeYearOfEra (yearOfEra day)) := by
    rw [hera, Date.ofDays, hday, Int.toNat_natCast]
    rfl
  rw [hday] at hdays
  -- eras are of one length: what is left is about the days of one of them
  generalize (days + epochOffset) / (daysPerEra : Int) = era at hdays hofDays
  have hstart (n : Nat) :
      daysBeforeYear (era * 400 + n) = daysPerEra * era + daysBeforeYearOfEra n := by
    unfold daysBeforeYear daysBeforeYearOfEra daysPerEra
    omega
  have hnext := hstart (yearOfEra day + 1)
  rw [Int.natCast_succ, ← Int.add_assoc] at hnext
  refine ⟨_, _, ?_, ?_, hofDays⟩
  · rw [hstart]
    omega
  · rw [hstart, hnext]
    omega

namespace Date

theorem ofDays_isValid (days : Int) : (ofDays days).IsValid := by
  obtain ⟨year, n, -, hlt, heq⟩ := ofDays_eq days
  rw [heq]
  exact ofMarch_isValid hlt

theorem toDays_ofDays (days : Int) : (ofDays days).toDays = days := by
  obtain ⟨year, n, hdays, hlt, heq⟩ := ofDays_eq days
  rw [heq, ofMarch_toDays hlt, hdays]

theorem ofDays_inj {a b : Int} : ofDays a = ofDays b ↔ a = b := by
  refine ⟨fun h => ?_, congrArg ofDays⟩
  rw [← toDays_ofDays a, h, toDays_ofDays]

theorem ofDays_before_iff {a b : Int} : (ofDays a).Before (ofDays b) ↔ a < b := by
  have forward {a b : Int} (h : (ofDays a).Before (ofDays b)) : a < b := by
    have hlt := toDays_lt (ofDays_isValid a) (ofDays_isValid b) h
    rwa [toDays_ofDays, toDays_ofDays] at hlt
  refine ⟨forward, fun h => ?_⟩
  rcases before_or_before (mt ofDays_inj.1 (Int.ne_of_lt h)) with hbefore | hafter
  · exact hbefore
  · exact absurd (forward hafter) (Int.not_lt.2 (Int.le_of_lt h))

theorem ofDays_toDays {d : Date} (h : d.IsValid) : ofDays d.toDays = d :=
  toDays_injective (ofDays_isValid _) h (toDays_ofDays _)

/-- The day after: in the same month, or the first of the next month, or of the next year. -/
def next (d : Date) : Date :=
  if d.day < daysInMonth d.year d.month then { d with day := d.day + 1 }
  else if d.month < 12 then ⟨d.year, d.month + 1, 1⟩
  else ⟨d.year + 1, 1, 1⟩

theorem next_isValid {d : Date} (h : d.IsValid) : d.next.IsValid := by
  obtain ⟨hmonth, hmonth', hday, hday'⟩ := h
  unfold next
  split_ifs with hlt hlast
  · exact ⟨hmonth, hmonth', Nat.le_succ_of_le hday, hlt⟩
  · exact ⟨Nat.succ_pos _, hlast, Nat.le_refl 1, one_le_daysInMonth _ _⟩
  · exact ⟨Nat.le_refl 1, Nat.le_of_ble_eq_true rfl, Nat.le_refl 1, one_le_daysInMonth _ _⟩

theorem toDays_next {d : Date} (h : d.IsValid) : d.next.toDays = d.toDays + 1 := by
  obtain ⟨year, month, day⟩ := d
  obtain ⟨hmonth, hmonth', hday, hday'⟩ := h
  dsimp only at hmonth hmonth' hday hday'
  rw [toDays_eq, toDays_eq]
  unfold next daysIntoYear
  dsimp only
  split_ifs with hlt hlast
  · have hmarch : marchYear ⟨year, month, day + 1⟩ = marchYear ⟨year, month, day⟩ := rfl
    rw [hmarch]
    dsimp only
    omega
  · have hend : day = daysInMonth year month := Nat.le_antisymm hday' (Nat.not_lt.1 hlt)
    by_cases hfebruary : month = 2
    · -- the year that starts in March is over
      subst hfebruary
      have hyear := daysBeforeYear_succ (year - 1)
      have hfirst : daysBeforeMonth 3 = 0 := rfl
      have hlast : daysBeforeMonth 2 = 337 := rfl
      rw [Int.sub_add_cancel] at hyear
      rw [hend]
      unfold marchYear daysInMonth
      simp only [Nat.reduceAdd, Nat.reduceLeDiff, if_true, if_false, hfirst, hlast]
      split_ifs at hyear ⊢ <;> omega
    · have hmarch : marchYear ⟨year, month + 1, 1⟩ = marchYear ⟨year, month, day⟩ := by
        unfold marchYear
        dsimp only
        split_ifs <;> omega
      have hnext := daysBeforeMonth_succ year hmonth hlast hfebruary
      rw [hmarch]
      dsimp only
      omega
  · obtain rfl : month = 12 := by omega
    have hend : day = 31 := Nat.le_antisymm hday' (Nat.not_lt.1 hlt)
    have hmarch : marchYear ⟨year + 1, 1, 1⟩ = marchYear ⟨year, 12, day⟩ := by
      unfold marchYear
      simp
    have hfirst : daysBeforeMonth 1 = 306 := rfl
    have hlast : daysBeforeMonth 12 = 275 := rfl
    rw [hmarch]
    dsimp only
    omega

theorem ofDays_succ (days : Int) : ofDays (days + 1) = (ofDays days).next := by
  refine toDays_injective (ofDays_isValid _) (next_isValid (ofDays_isValid days)) ?_
  rw [toDays_next (ofDays_isValid days), toDays_ofDays, toDays_ofDays]

end Date

end Dispatch.Time
