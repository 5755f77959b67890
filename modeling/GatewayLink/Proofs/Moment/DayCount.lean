import GatewayLink.Proofs.Moment.Layout

/-! Day numbers as counts of days.
The number of a date is what comes out when the days of the years and of the months in between are added one by
one, on either side of 1970. -/

namespace GatewayLink.Date

def yearLength (year : Int) : Nat := if isLeapYear year then 366 else 365

def daysOfYears (first : Int) : (count : Nat) → Nat
  | 0 => 0
  | count + 1 => daysOfYears first count + yearLength (first + count)

def daysOfMonths (year : Int) : (count : Nat) → Nat
  | 0 => 0
  | count + 1 => daysOfMonths year count + daysInMonth year (count + 1)

def daysToYear (year : Int) : Int :=
  daysOfYears 1970 (year - 1970).toNat - daysOfYears year (1970 - year).toNat

/-- The days from 1970-01-01 to a date, counted by years, by months and by days. -/
def daysFromEpoch (d : Date) : Int :=
  daysToYear d.year + daysOfMonths d.year (d.month - 1) + (d.day - 1)

def daysBefore (year : Int) : Int :=
  365 * (year - 1) + (year - 1) / 4 - (year - 1) / 100 + (year - 1) / 400

theorem daysBefore_succ (year : Int) : daysBefore (year + 1) = daysBefore year + yearLength year := by
  have leap : isLeapYear year = true ↔ year % 4 = 0 ∧ (year % 100 ≠ 0 ∨ year % 400 = 0) := by
    simp [isLeapYear]
  rw [yearLength, daysBefore, daysBefore, Int.add_sub_cancel]
  split
  · next leapt =>
    have divisible := leap.mp leapt
    omega
  · next common =>
    have odd := mt leap.mpr common
    omega

theorem daysOfYears_eq (first : Int) (count : Nat) :
    (daysOfYears first count : Int) = daysBefore (first + count) - daysBefore first := by
  induction count with
  | zero => simp [daysOfYears]
  | succ count ih =>
    have next := daysBefore_succ (first + count)
    rw [daysOfYears, Nat.cast_add, ih, Nat.cast_add, Nat.cast_one, ← Int.add_assoc, next]
    omega

theorem daysToYear_eq (year : Int) : daysToYear year = daysBefore year - 719162 := by
  have epoch : daysBefore 1970 = 719162 := by decide
  rw [daysToYear, daysOfYears_eq, daysOfYears_eq, epoch]
  rcases Int.le_total 1970 year with after | before
  · have there : 1970 + ((year - 1970).toNat : Int) = year := by omega
    have back : year + ((1970 - year).toNat : Int) = year := by omega
    rw [there, back]
    omega
  · have there : 1970 + ((year - 1970).toNat : Int) = 1970 := by omega
    have back : year + ((1970 - year).toNat : Int) = 1970 := by omega
    rw [there, back, epoch]
    omega

def daysFromMarch (year : Int) (month : Nat) : Int :=
  (153 * monthFromMarch month + 2) / 5 + if month ≤ 2 then -306 else (yearLength year - 306 : Int)

theorem daysFromMarch_succ (year : Int) {month : Nat} (first : 1 ≤ month) (last : month < 12) :
    daysFromMarch year (month + 1) = daysFromMarch year month + daysInMonth year month := by
  cases leap : isLeapYear year <;> interval_cases month <;>
    simp [daysFromMarch, monthFromMarch, daysInMonth, yearLength, leap]

theorem daysOfMonths_eq (year : Int) {month : Nat} (first : 1 ≤ month) (last : month ≤ 12) :
    (daysOfMonths year (month - 1) : Int) = daysFromMarch year month := by
  induction month, first using Nat.le_induction with
  | base => rfl
  | succ month first ih =>
    obtain ⟨before, rfl⟩ := Nat.exists_eq_add_of_le' first
    have earlier := ih (Nat.le_of_succ_le last)
    rw [Nat.add_sub_cancel] at earlier ⊢
    rw [daysOfMonths, Nat.cast_add, earlier, daysFromMarch_succ year first last]

theorem dayNumber_eq_daysFromEpoch {d : Date} (valid : d.isValid = true) :
    d.dayNumber = d.daysFromEpoch := by
  obtain ⟨⟨first, last⟩, -, -⟩ := bounds_of_isValid valid
  have next := daysBefore_succ d.year
  rw [daysFromEpoch, daysToYear_eq, daysOfMonths_eq d.year first last, daysFromMarch, dayNumber,
    yearFromMarch]
  simp only [daysBefore] at next ⊢
  split <;> omega

theorem dayNumber_bounds {d : Date} (valid : d.isValid = true)
    (year : 0 ≤ d.year ∧ d.year ≤ 9999) : -719528 ≤ d.dayNumber ∧ d.dayNumber ≤ 2932896 := by
  obtain ⟨⟨january, december⟩, first, last⟩ := bounds_of_isValid valid
  obtain ⟨y, ofYear⟩ : ∃ y, d.year = y := ⟨_, rfl⟩
  simp only [dayNumber, yearFromMarch, monthFromMarch, ofYear] at year ⊢
  -- only in the first year and in the last one do the bounds depend on the day
  rcases (show y = 0 ∨ y = 9999 ∨ 1 ≤ y ∧ y ≤ 9998 by omega) with rfl | rfl | within
  · split <;> omega
  · split <;> omega
  · split <;> omega

end GatewayLink.Date
