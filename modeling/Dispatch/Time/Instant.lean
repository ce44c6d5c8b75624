import Dispatch.Time.Calendar

namespace Dispatch.Time

def secondsPerDay : Nat := 86400

def nanosPerSecond : Nat := 1000000000

def minYear : Int := -262143

def maxYear : Int := 262142

def minSeconds : Int := (⟨minYear, 1, 1⟩ : Date).toDays * secondsPerDay

def maxSeconds : Int := (⟨maxYear, 12, 31⟩ : Date).toDays * secondsPerDay + (secondsPerDay - 1)

/-- Seconds from 1970 in UTC. In a leap second the nanoseconds count on beyond a full second. They do so only
after the last second of a minute, where clocks and the texts that are read put a leap second; instants
that are given such nanoseconds after any other second are left out. -/
structure Instant where
  seconds : Int
  nanos : Nat
  min_le : minSeconds ≤ seconds
  le_max : seconds ≤ maxSeconds
  nanos_lt : nanos < 2 * nanosPerSecond
  leap : nanosPerSecond ≤ nanos → seconds % 60 = 59
  deriving DecidableEq

structure Reading where
  date : Date
  hour : Nat
  minute : Nat
  second : Nat
  nanos : Nat
  deriving DecidableEq, Repr, Inhabited

namespace Instant

def of? (seconds : Int) (nanos : Nat) : Option Instant :=
  if h : minSeconds ≤ seconds ∧ seconds ≤ maxSeconds ∧ nanos < 2 * nanosPerSecond ∧
      (nanosPerSecond ≤ nanos → seconds % 60 = 59) then
    some ⟨seconds, nanos, h.1, h.2.1, h.2.2.1, h.2.2.2⟩
  else none

def epoch : Instant := ⟨0, 0, by decide, by decide, by decide, by decide⟩

instance : Inhabited Instant := ⟨epoch⟩

def millis (t : Instant) : Nat := t.nanos / 1000000

def reading (t : Instant) : Reading :=
  let ofDay := (t.seconds % secondsPerDay).toNat
  { date := Date.ofDays (t.seconds / secondsPerDay)
    hour := ofDay / 3600
    minute := ofDay / 60 % 60
    second := ofDay % 60 + t.nanos / nanosPerSecond
    nanos := t.nanos % nanosPerSecond }

end Instant

namespace Reading

def IsValid (r : Reading) : Prop :=
  minYear ≤ r.date.year ∧ r.date.year ≤ maxYear ∧ r.date.IsValid ∧
    r.hour < 24 ∧ r.minute < 60 ∧ r.second ≤ 60 ∧ r.nanos < nanosPerSecond

instance (r : Reading) : Decidable r.IsValid := inferInstanceAs (Decidable (_ ∧ _))

/-- The instant at which a clock that is `offset` minutes ahead of UTC shows `r`. -/
def instant? (r : Reading) (offset : Int) : Option Instant :=
  if r.IsValid then
    let second := min r.second 59
    let leap := if r.second = 60 then nanosPerSecond else 0
    Instant.of? (r.date.toDays * secondsPerDay + (r.hour * 3600 + r.minute * 60 + second : Nat) - offset * 60)
      (leap + r.nanos)
  else none

end Reading

end Dispatch.Time
