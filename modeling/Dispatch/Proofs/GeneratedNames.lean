import Dispatch.Proofs.Chronology
import Dispatch.Proofs.Mounting

namespace Dispatch

open Text Time

namespace Naming

/-- A name of this base that leaves room for the stamp of `t`. -/
def Fits (base : List Char) (t : Instant) : Prop := (base ++ '-' :: t.stamp).length ≤ maxLength

/-- The longest start of `base` that fits. -/
structure IsLongestFit (base : List Char) (t : Instant) (p : List Char) : Prop where
  start : p <+: base
  fits : Fits p t
  longest : ∀ q, q <+: base → Fits q t → q.length ≤ p.length

theorem length_stamp_lt (t : Instant) : t.stamp.length + 1 ≤ maxLength := by
  have := length_stamp_le t
  unfold maxLength
  omega

theorem fits_iff {base : List Char} {t : Instant} :
    Fits base t ↔ base.length ≤ maxLength - (t.stamp.length + 1) := by
  have := length_stamp_lt t
  rw [Fits, List.length_append, List.length_cons]
  omega

theorem isLongestFit_take (base : List Char) (t : Instant) :
    IsLongestFit base t (base.take (maxLength - (t.stamp.length + 1))) where
  start := List.take_prefix _ base
  fits := fits_iff.2 (List.length_take_le _ base)
  longest q hq hfits := by
    rw [List.length_take]
    exact Nat.le_min.2 ⟨fits_iff.1 hfits, hq.length_le⟩

theorem IsLongestFit.eq_base {base p : List Char} {t : Instant} (h : IsLongestFit base t p)
    (hfits : Fits base t) : p = base :=
  h.start.eq_of_length_le (h.longest base List.prefix_rfl hfits)

/-- Names of one base are in the order of the instants they were made at, down to the millisecond. -/
theorem names_sort_by_time (base : String) {t t' : Instant} (h : t.HasFourDigitYear)
    (h' : t'.HasFourDigitYear) :
    (Precedes (generate base t).toList (generate base t').toList ↔ t.Before t') ∧
      (generate base t = generate base t' ↔ t.seconds = t'.seconds ∧ t.millis = t'.millis) := by
  have order {t t' : Instant} (h : t.HasFourDigitYear) (h' : t'.HasFourDigitYear) :
      Precedes (generate base t).toList (generate base t').toList ↔ t.Before t' := by
    rw [generate, generate, String.toList_ofList, String.toList_ofList, stamped, stamped,
      length_stamp h, length_stamp h', precedes_append, ← stamp_precedes_iff h h']
    exact precedes_append ['-']
  refine ⟨order h h', ?_⟩
  rw [← String.toList_inj, eq_iff_not_precedes, order h h', order h' h]
  unfold Instant.Before
  omega

def leapSecond : Instant := ⟨1483228799, 1500000000, by decide, by decide, by decide, by decide⟩

def newYear : Instant := ⟨1483228800, 250000000, by decide, by decide, by decide, by decide⟩

theorem leap_second_sorts_before_new_year : leapSecond.HasFourDigitYear ∧ newYear.HasFourDigitYear ∧
    generate "prep" leapSecond = "prep-2016-12-31-23-59-60-500" ∧
    generate "prep" newYear = "prep-2017-01-01-00-00-00-250" ∧
    Precedes (generate "prep" leapSecond).toList (generate "prep" newYear).toList := by
  have hleap : leapSecond.HasFourDigitYear := by decide
  have hnew : newYear.HasFourDigitYear := by decide
  exact ⟨hleap, hnew, by decide, by decide,
    (names_sort_by_time "prep" hleap hnew).1.2 (.inl (by decide))⟩

theorem base_eq (c : Configuration) :
    base c = (c.baseJobName.filter (· ≠ "")).getD (baseOfImage c.image) := by
  rw [base]
  cases c.baseJobName with
  | none => rfl
  | some b => by_cases hb : b = "" <;> simp [Option.filter, hb]

end Naming

/-- The name of a job that is given none is the longest start of its base that leaves room for a dash and
the time, which both always fit; it is the whole base if that fits. -/
theorem names_keep_what_fits {σ : Type} (cs : Collaborators σ) (c : Configuration) (s : Shared σ) :
    let t := (cs.clock s.world).1
    let base := ((c.baseJobName.filter (· ≠ "")).getD (Naming.baseOfImage c.image)).toList
    ∃ p w, resolveJobName cs c none s =
        (.ok (String.ofList (p ++ '-' :: t.stamp)), { s with world := w }) ∧
      IsStamp t.reading t.stamp ∧ Naming.IsLongestFit base t p ∧ (Naming.Fits base t → p = base) ∧
        (Utf8.encode t.stamp).length + 1 ≤ Naming.maxLength := by
  intro t base
  have hlongest := Naming.isLongestFit_take base t
  obtain ⟨w, hname⟩ := resolveJobName_chosen cs c none s
  have hchosen : chosenName cs c none s.world =
      String.ofList (base.take (Naming.maxLength - (t.stamp.length + 1)) ++ '-' :: t.stamp) := by
    rw [chosenName, Option.getD_none, Naming.base_eq, Naming.generate, Naming.stamped]
  rw [hchosen] at hname
  refine ⟨_, w, hname, isStamp_stamp t, hlongest, hlongest.eq_base, ?_⟩
  rw [length_encode_stamp]
  exact Naming.length_stamp_lt t

end Dispatch
