import Mathlib.Order.Monotone.Basic
import Mathlib.Tactic.IntervalCases
import SchemaMill.Calendar.Moment

/-!
# The days and years of the calendar

The years are as long as the numbers of their days say (`daysBeforeYear_succ`), which is near enough
to their mean length for the year of a day to be found in one step (`Date.yearOf_spec`). So the days
of the calendar are found again by their numbers (`Date.dayNumber_ofDayNumber`), and these are in
the order of year, month and day (`Date.dayNumber_lt_dayNumber`).

The days of a valid date lie before year 10000 (`Date.dayNumber_lt`), and a day before year 10000
lies in a year up to 9999 (`Date.year_ofDayNumber_le`). So a moment of the calendar has a time stamp
if its clock shows Coordinated Universal Time (`Moment.exists_timestamp`); only an offset can take
it out of the calendar.
-/

namespace SchemaMill

/-! ### Years -/

/-- A year with a 29th of February has a day more. -/
theorem daysBeforeYear_succ {year : Nat} (h : 1 ≤ year) :
    daysBeforeYear (year + 1) = daysBeforeYear year + if isLeapYear year then 366 else 365 := by
  obtain ⟨past, rfl⟩ := Nat.exists_eq_add_of_le' h
  have hfour : (past + 1) / 4 = past / 4 + if (past + 1) % 4 = 0 then 1 else 0 := by
    split <;> omega
  have hcentury : (past + 1) / 100 = past / 100 + if (past + 1) % 100 = 0 then 1 else 0 := by
    split <;> omega
  have hage : (past + 1) / 400 = past / 400 + if (past + 1) % 400 = 0 then 1 else 0 := by
    split <;> omega
  have hle : past / 100 ≤ past / 4 := Nat.div_le_div_left (by decide) (by decide)
  have h100 : (past + 1) % 400 = 0 → (past + 1) % 100 = 0 := by omega
  have h4 : (past + 1) % 100 = 0 → (past + 1) % 4 = 0 := by omega
  simp only [daysBeforeYear, isLeapYear, Nat.add_sub_cancel, hfour, hcentury, hage]
  -- only the three remainders matter from here on
  generalize past / 4 = a at *
  generalize past / 100 = b at *
  generalize past / 400 = c at *
  by_cases c4 : (past + 1) % 4 = 0 <;> by_cases c100 : (past + 1) % 100 = 0 <;>
    by_cases c400 : (past + 1) % 400 = 0 <;> simp [*] <;> omega

theorem daysBeforeYear_mono : Monotone daysBeforeYear := by
  refine monotone_nat_of_le_succ fun year => ?_
  cases year with
  | zero => exact Nat.le_refl _
  | succ past =>
    rw [daysBeforeYear_succ (Nat.succ_pos past)]
    exact Nat.le_add_right _ _

/-- The days before a year are close to what the mean length of a year makes them. -/
theorem daysBeforeYear_near_mean (past : Nat) :
    400 * daysBeforeYear (past + 1) ≤ 146097 * past + 288 ∧
    146097 * past ≤ 400 * daysBeforeYear (past + 1) + 591 := by
  have hcentury : past / 100 = past / 4 / 25 := (Nat.div_div_eq_div_mul past 4 25).symm
  have hage : past / 400 = past / 4 / 25 / 4 := by
    rw [← hcentury, Nat.div_div_eq_div_mul]
  simp only [daysBeforeYear, Nat.add_sub_cancel, hcentury, hage]
  omega

theorem daysBeforeMonth_add_daysInMonth_le (year : Nat) {month : Nat} (h : 1 ≤ month)
    (h' : month ≤ 12) :
    daysBeforeMonth (isLeapYear year) month + daysInMonth year month ≤
      if isLeapYear year then 366 else 365 := by
  unfold daysInMonth
  cases isLeapYear year <;> interval_cases month <;> decide

namespace Date

variable {d d' : Date} {n : Nat}

theorem isValid_iff : d.isValid = true ↔ 1 ≤ d.year ∧ d.year ≤ 9999 ∧ 1 ≤ d.month ∧ d.month ≤ 12 ∧
    1 ≤ d.day ∧ d.day ≤ daysInMonth d.year d.month := by
  simp only [isValid, Bool.and_eq_true, decide_eq_true_eq, and_assoc]

theorem dayNumber_lt_succ (h : d.isValid) : d.dayNumber < daysBeforeYear (d.year + 1) := by
  obtain ⟨hyear, -, hmonth, hmonth', hday, hday'⟩ := isValid_iff.mp h
  have hyearDays := daysBeforeMonth_add_daysInMonth_le d.year hmonth hmonth'
  rw [daysBeforeYear_succ hyear, dayNumber]
  omega

theorem dayNumber_lt (h : d.isValid) : d.dayNumber < daysBeforeYear 10000 := by
  obtain ⟨-, hyear, -⟩ := isValid_iff.mp h
  exact (dayNumber_lt_succ h).trans_le (daysBeforeYear_mono (Nat.succ_le_succ hyear))

theorem yearOf_spec (n : Nat) :
    1 ≤ yearOf n ∧ daysBeforeYear (yearOf n) ≤ n ∧ n < daysBeforeYear (yearOf n + 1) := by
  have hlow := Nat.div_mul_le_self (n * 400) 146097
  have hhigh := Nat.lt_div_mul_add (a := n * 400) (b := 146097) (by decide)
  simp only [yearOf]
  generalize n * 400 / 146097 = past at *
  split
  · next hearly =>
    cases past with
    | zero => exact absurd hearly (Nat.not_lt_zero n)
    | succ past =>
      have hbefore := (daysBeforeYear_near_mean past).1
      exact ⟨Nat.succ_pos _, by simp; omega, hearly⟩
  split
  · next hlate =>
    have hafter : 146097 * (past + 2) ≤ 400 * daysBeforeYear (past + 1 + 1 + 1) + 591 :=
      (daysBeforeYear_near_mean (past + 2)).2
    exact ⟨Nat.succ_pos _, hlate, by omega⟩
  · next hearly hlate => exact ⟨Nat.succ_pos _, Nat.not_lt.mp hearly, Nat.not_le.mp hlate⟩

theorem year_ofDayNumber_le (h : n < daysBeforeYear 10000) :
    (ofDayNumber n).year ≤ 9999 := by
  obtain ⟨-, hlow, -⟩ := yearOf_spec n
  by_contra hlate
  exact absurd (daysBeforeYear_mono (Nat.not_le.mp hlate)) (by
    show ¬daysBeforeYear 10000 ≤ daysBeforeYear (yearOf n)
    omega)

/-! ### Days -/

theorem daysInMonth_congr {year year' : Nat} (h : isLeapYear year = isLeapYear year')
    (month : Nat) : daysInMonth year month = daysInMonth year' month := by
  unfold daysInMonth
  rw [h]

theorem monthOf_spec (year dayOfYear : Nat)
    (h : dayOfYear < if isLeapYear year then 366 else 365) :
    let month := monthOf (isLeapYear year) dayOfYear
    1 ≤ month ∧ month ≤ 12 ∧ daysBeforeMonth (isLeapYear year) month ≤ dayOfYear ∧
      dayOfYear < daysBeforeMonth (isLeapYear year) month + daysInMonth year month := by
  -- years of one length have the months of one such year
  have hall : ∀ sample ∈ [1, 4], ∀ day < if isLeapYear sample then 366 else 365,
      let month := monthOf (isLeapYear sample) day
      1 ≤ month ∧ month ≤ 12 ∧ daysBeforeMonth (isLeapYear sample) month ≤ day ∧
        day < daysBeforeMonth (isLeapYear sample) month + daysInMonth sample month := by
    decide +kernel
  obtain ⟨sample, hsample, hleap⟩ : ∃ sample ∈ [1, 4], isLeapYear year = isLeapYear sample := by
    cases hleap : isLeapYear year
    · exact ⟨1, by decide, rfl⟩
    · exact ⟨4, by decide, rfl⟩
  rw [hleap] at h ⊢
  simp only [daysInMonth_congr hleap]
  exact hall sample hsample dayOfYear h

/-- A day of the calendar is found again by its number. -/
theorem dayNumber_ofDayNumber (n : Nat) : (ofDayNumber n).dayNumber = n := by
  obtain ⟨hyear, hlow, hhigh⟩ := yearOf_spec n
  rw [daysBeforeYear_succ hyear] at hhigh
  obtain ⟨-, -, hmonth, -⟩ := monthOf_spec (yearOf n) (n - daysBeforeYear (yearOf n)) (by omega)
  simp only [dayNumber, ofDayNumber]
  omega

theorem isValid_ofDayNumber (h : n < daysBeforeYear 10000) : (ofDayNumber n).isValid := by
  obtain ⟨hyear, hlow, hhigh⟩ := yearOf_spec n
  rw [daysBeforeYear_succ hyear] at hhigh
  obtain ⟨hpos, hle, hmonth, hday⟩ :=
    monthOf_spec (yearOf n) (n - daysBeforeYear (yearOf n)) (by omega)
  refine isValid_iff.mpr ⟨hyear, year_ofDayNumber_le h, hpos, hle, Nat.succ_pos _, ?_⟩
  simp only [ofDayNumber]
  omega

theorem daysBeforeMonth_add_daysInMonth_le_of_lt (year : Nat) {month month' : Nat} (h : 1 ≤ month)
    (hlt : month < month') (h' : month' ≤ 12) :
    daysBeforeMonth (isLeapYear year) month + daysInMonth year month ≤
      daysBeforeMonth (isLeapYear year) month' := by
  have hle : month ≤ 11 := by omega
  unfold daysInMonth
  cases isLeapYear year <;> interval_cases month <;> interval_cases month' <;> decide

/-- Days are numbered in the order of year, month and day. -/
theorem dayNumber_lt_dayNumber (hd : d.isValid) (hd' : d'.isValid)
    (h : d.year < d'.year ∨ d.year = d'.year ∧ (d.month < d'.month ∨
      d.month = d'.month ∧ d.day < d'.day)) : d.dayNumber < d'.dayNumber := by
  obtain ⟨-, -, hmonth, -, hday, hday'⟩ := isValid_iff.mp hd
  obtain ⟨-, -, -, hmonth', -, -⟩ := isValid_iff.mp hd'
  rcases h with hlt | ⟨heq, hlt | ⟨heq', hlt⟩⟩
  · calc d.dayNumber < daysBeforeYear (d.year + 1) := dayNumber_lt_succ hd
      _ ≤ daysBeforeYear d'.year := daysBeforeYear_mono hlt
      _ ≤ d'.dayNumber := by
          rw [dayNumber, Nat.add_assoc]
          exact Nat.le_add_right _ _
  · have hle := daysBeforeMonth_add_daysInMonth_le_of_lt d.year hmonth hlt hmonth'
    rw [dayNumber, dayNumber, ← heq]
    omega
  · rw [dayNumber, dayNumber, ← heq, ← heq']
    omega

end Date

/-! ### Time stamps -/

namespace Moment

theorem timeOfDay_lt {m : Moment} (h : m.isValid) : m.timeOfDay < microsecondsPerDay := by
  simp only [isValid, Bool.and_eq_true, decide_eq_true_eq] at h
  simp only [timeOfDay, microsecondsPerDay]
  omega

/-- A moment of the calendar in Coordinated Universal Time has a time stamp. -/
theorem exists_timestamp {m : Moment} (h : m.isValid) (hutc : m.offset = some 0) :
    ∃ timestamp, m.timestamp? = some timestamp := by
  have hdate : m.date.isValid := by
    simp only [isValid, Bool.and_eq_true] at h
    exact h.1.1.1.1.1
  have hday : (m.date.dayNumber * microsecondsPerDay + m.timeOfDay) / microsecondsPerDay =
      m.date.dayNumber := by
    rw [Nat.mul_comm, Nat.mul_add_div (by decide), Nat.div_eq_of_lt (timeOfDay_lt h), Nat.add_zero]
  have hinstant : m.instant =
      .ofNat (m.date.dayNumber * microsecondsPerDay + m.timeOfDay) := by
    rw [instant, hutc]
    simp
  rw [timestamp?, hinstant]
  simp only [ofInstant?, hday, if_pos (Date.year_ofDayNumber_le (Date.dayNumber_lt hdate))]
  exact ⟨_, rfl⟩

end Moment

end SchemaMill
