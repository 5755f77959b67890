import Mathlib.Tactic.IntervalCases
import GatewayLink.Moment.Calendar

/-! The calendar is exact: every day number belongs to a valid date, which has that number. -/

namespace GatewayLink.Date

/-- The years of a cycle tile its days: a year begins no later than each of its days, and the next year
begins later. -/
theorem yearOfCycle_bounds {day year centuries cycles : Int} (first : 0 ≤ day) (last : day ≤ 146096)
    (whole : centuries = day / 36524) (full : cycles = day / 146096)
    (found : year = (day - day / 1460 + centuries - cycles) / 365) :
    0 ≤ year ∧ year ≤ 399 ∧ 365 * year + year / 4 - year / 100 ≤ day ∧
      day < 365 * (year + 1) + (year + 1) / 4 - (year + 1) / 100 + (year + 1) / 400 := by
  have leaps : year / 4 ≤ day / 1460 := by omega
  have skipped : centuries - cycles ≤ year / 100 := by omega
  have nextLeaps : day / 1460 ≤ (year + 1) / 4 := by omega
  have nextSkipped : (year + 1) / 100 ≤ centuries - cycles + 1 := by omega
  refine ⟨by omega, by omega, by omega, ?_⟩
  by_cases within : (year + 1) / 100 ≤ centuries - cycles
  · omega
  · -- The last year of a century has the days that the rounding of leap days has left over.
    have ending : 100 * (centuries - cycles) + 99 ≤ year := by omega
    have counted : 25 * (centuries - cycles + 1) ≤ (year + 1) / 4 := by omega
    have cases : centuries = 0 ∨ centuries = 1 ∨ centuries = 2 ∨ centuries = 3 ∨ centuries = 4 := by
      omega
    rcases cases with rfl | rfl | rfl | rfl | rfl <;> omega

theorem exists_ofDayNumber (n : Int) :
    ∃ cycle year day month : Int,
      (0 ≤ year ∧ year ≤ 399) ∧
      n + 719468 = 146097 * cycle + (365 * year + year / 4 - year / 100) + day ∧
      0 ≤ day ∧
      365 * year + year / 4 - year / 100 + day <
        365 * (year + 1) + (year + 1) / 4 - (year + 1) / 100 + (year + 1) / 400 ∧
      month = (5 * day + 2) / 153 ∧
      ofDayNumber n =
        ⟨year + cycle * 400 + (if month < 10 then 0 else 1),
          (if month < 10 then month + 3 else month - 9).toNat,
          (day - (153 * month + 2) / 5 + 1).toNat⟩ := by
  obtain ⟨cycle, day, whole, first, last⟩ : ∃ cycle day : Int,
      n + 719468 = 146097 * cycle + day ∧ 0 ≤ day ∧ day ≤ 146096 :=
    ⟨(n + 719468) / 146097, (n + 719468) % 146097, by omega, by omega, by omega⟩
  have cycles : (n + 719468) / 146097 = cycle := by omega
  have rest : (n + 719468) % 146097 = day := by omega
  obtain ⟨year, found⟩ : ∃ year,
      (day - day / 1460 + day / 36524 - day / 146096) / 365 = year := ⟨_, rfl⟩
  obtain ⟨low, high, begun, ends⟩ := yearOfCycle_bounds first last rfl rfl found.symm
  obtain ⟨month, monthOf⟩ : ∃ month,
      (5 * (day - (365 * year + year / 4 - year / 100)) + 2) / 153 = month := ⟨_, rfl⟩
  refine ⟨cycle, year, day - (365 * year + year / 4 - year / 100), month, ⟨low, high⟩, by omega,
    by omega, by omega, monthOf.symm, ?_⟩
  simp only [ofDayNumber, cycles, rest, found, monthOf]
  by_cases early : month < 10
  · have late : ¬ month + 3 ≤ 2 := by omega
    simp [early, late]
  · have late : month - 9 ≤ 2 := by omega
    simp [early, late]

theorem dayNumber_ofDayNumber (n : Int) : (ofDayNumber n).dayNumber = n := by
  obtain ⟨cycle, year, day, month, ⟨low, high⟩, whole, first, last, monthOf, shown⟩ :=
    exists_ofDayNumber n
  obtain ⟨k, rfl⟩ : ∃ k : Nat, month = k := ⟨month.toNat, by omega⟩
  have bound : k ≤ 11 := by omega
  have within : 1 ≤ day - (153 * (k : Int) + 2) / 5 + 1 := by omega
  have leaps : (year + cycle * 400) / 4 = year / 4 + 100 * cycle ∧
      (year + cycle * 400) / 100 = year / 100 + 4 * cycle ∧
      (year + cycle * 400) / 400 = cycle := by omega
  obtain ⟨fourths, hundredths, cycles⟩ := leaps
  rw [shown]
  simp only [dayNumber, yearFromMarch, monthFromMarch]
  by_cases early : (k : Int) < 10
  · have month : ((k : Int) + 3).toNat = k + 3 := by omega
    have fromMarch : (k + 3 + 9) % 12 = k := by omega
    have afterFebruary : ¬ k + 3 ≤ 2 := by omega
    simp only [if_pos early, month, fromMarch, if_neg afterFebruary, Int.add_zero, fourths,
      hundredths, cycles]
    omega
  · have month : ((k : Int) - 9).toNat = k - 9 := by omega
    have fromMarch : (k - 9 + 9) % 12 = k := by omega
    have january : k - 9 ≤ 2 := by omega
    simp only [if_neg early, month, fromMarch, if_pos january, Int.add_sub_cancel, fourths,
      hundredths, cycles]
    omega

theorem isValid_ofDayNumber (n : Int) : (ofDayNumber n).isValid = true := by
  obtain ⟨cycle, year, day, month, ⟨low, high⟩, whole, first, last, monthOf, shown⟩ :=
    exists_ofDayNumber n
  obtain ⟨k, rfl⟩ : ∃ k : Nat, month = k := ⟨month.toNat, by omega⟩
  have bound : k ≤ 11 := by omega
  rw [shown]
  simp only [isValid, Bool.and_eq_true, decide_eq_true_eq]
  by_cases february : k = 11
  · subst february
    have leap : isLeapYear (year + cycle * 400 + 1) = true ∨ day ≤ 364 := by
      simp only [isLeapYear, Bool.and_eq_true, Bool.or_eq_true, beq_iff_eq, bne_iff_ne]
      omega
    have length : (daysInMonth (year + cycle * 400 + 1) 2 : Int) = 29 ∨ day ≤ 364 :=
      leap.imp (fun leap => by simp [daysInMonth, leap]) id
    have least : 28 ≤ daysInMonth (year + cycle * 400 + 1) 2 := by
      simp only [daysInMonth]
      split <;> decide
    refine ⟨by omega, ?_⟩
    show _ ≤ daysInMonth (year + cycle * 400 + 1) 2
    omega
  · have later : k ≤ 10 := by omega
    interval_cases k <;> simp [daysInMonth] <;> omega

theorem year_ofDayNumber (limit : Int) {n : Int} (low : -(365 * limit) ≤ n) (high : n ≤ 365 * limit) :
    -limit ≤ (ofDayNumber n).year ∧ (ofDayNumber n).year ≤ limit + 1971 := by
  obtain ⟨cycle, year, day, month, ⟨first, last⟩, whole, begun, ends, monthOf, shown⟩ :=
    exists_ofDayNumber n
  rw [shown]
  dsimp only
  split <;> omega

end GatewayLink.Date
