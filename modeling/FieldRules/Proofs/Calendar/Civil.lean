import FieldRules.Calendar.Civil

/-!
# Days and their numbers

The day at a count of days from 1970-01-01 is a day of the calendar, and its count is the one it was
made from.
-/
set_option autoImplicit false

namespace FieldRules.CivilDate

/-- A day of an era by the century, the four years, the year and the day it falls in. Only a last year has
the day 365, and a last four years only in the last century. -/
structure InCycles (dayOfEra century four year day : Int) : Prop where
  century_ge : 0 ≤ century
  century_le : century ≤ 3
  four_ge : 0 ≤ four
  four_le : four ≤ 24
  year_ge : 0 ≤ year
  year_le : year ≤ 3
  day_ge : 0 ≤ day
  day_le : day ≤ 365
  last : day = 365 → year = 3 ∧ (four = 24 → century = 3)
  sum : dayOfEra = 36524 * century + 1461 * four + 365 * year + day

theorem exists_inCycles {r : Int} (hLow : 0 ≤ r) (hHigh : r < 146097) : ∃ c q a d, InCycles r c q a d := by
  -- the last century and the last of four years have a day more, on which the quotients are one too large
  obtain ⟨c, hc⟩ : ∃ c, c = min (r / 36524) 3 := ⟨_, rfl⟩
  obtain ⟨q, hq⟩ : ∃ q, q = (r - 36524 * c) / 1461 := ⟨_, rfl⟩
  obtain ⟨a, ha⟩ : ∃ a, a = min ((r - 36524 * c - 1461 * q) / 365) 3 := ⟨_, rfl⟩
  refine ⟨c, q, a, r - 36524 * c - 1461 * q - 365 * a, ?_, ?_, ?_, ?_, ?_, ?_, ?_, ?_, ?_, ?_⟩ <;> omega

namespace InCycles

variable {r c q a d : Int}

theorem yearOfEra_eq (h : InCycles r c q a d) :
    (r - r / 1460 + r / 36524 - r / 146096) / 365 = 100 * c + 4 * q + a := by
  obtain ⟨hc, hc', hq, hq', ha, ha', hd, hd', hLast, hSum⟩ := h
  have hEra : r / 146096 = if r = 146096 then 1 else 0 := by split <;> omega
  have hCentury : r / 36524 = c + r / 146096 := by omega
  have hFour : r / 1460 = 25 * c + q + if 1460 ≤ 24 * c + q + 365 * a + d then 1 else 0 := by
    split <;> omega
  rw [hCentury, hFour]
  split <;> omega

theorem year_div (h : InCycles r c q a d) :
    (100 * c + 4 * q + a) / 4 = 25 * c + q ∧ (100 * c + 4 * q + a) / 100 = c := by
  have := h.year_ge
  have := h.year_le
  have := h.four_ge
  have := h.four_le
  constructor <;> omega

end InCycles

def ofMarchDay (year day : Int) : CivilDate :=
  let monthFromMarch := (5 * day + 2) / 153
  let month := if monthFromMarch < 10 then monthFromMarch + 3 else monthFromMarch - 9
  ⟨year + (if month ≤ 2 then 1 else 0), month.toNat, (day - (153 * monthFromMarch + 2) / 5 + 1).toNat⟩

theorem ofDayNumber_eq_ofMarchDay {r c q a d : Int} (h : InCycles r c q a d) (era : Int) :
    ofDayNumber (146097 * era + r - 719468) = ofMarchDay (100 * c + 4 * q + a + era * 400) d := by
  have hEra : (146097 * era + r - 719468 + 719468) / 146097 = era := by
    obtain ⟨hc, hc', hq, hq', ha, ha', hd, hd', hLast, hSum⟩ := h
    omega
  have hRest : (146097 * era + r - 719468 + 719468) % 146097 = r := by
    obtain ⟨hc, hc', hq, hq', ha, ha', hd, hd', hLast, hSum⟩ := h
    omega
  have hDay : r - (365 * (100 * c + 4 * q + a) + (25 * c + q) - c) = d := by
    have := h.sum
    omega
  simp only [ofDayNumber, ofMarchDay, hEra, hRest, h.yearOfEra_eq, h.year_div.1, h.year_div.2, hDay]

theorem isValid_ofMarchDay {year day : Int} (hLow : 0 ≤ day) (hHigh : day ≤ 365)
    (hLast : day = 365 → isLeapYear (year + 1) = true) : (ofMarchDay year day).isValid = true := by
  obtain ⟨m, hm⟩ : ∃ m, m = (5 * day + 2) / 153 := ⟨_, rfl⟩
  have hMonth : m = 0 ∨ m = 1 ∨ m = 2 ∨ m = 3 ∨ m = 4 ∨ m = 5 ∨ m = 6 ∨ m = 7 ∨ m = 8 ∨ m = 9 ∨ m = 10 ∨
      m = 11 := by omega
  simp only [ofMarchDay, isValid, ← hm]
  by_cases hFebruary : m = 11
  · subst hFebruary
    by_cases hLeap : isLeapYear (year + 1) = true
    · simp [monthLength, hLeap]
      omega
    · have : day ≠ 365 := fun hDay => hLeap (hLast hDay)
      simp [monthLength, hLeap]
      omega
  · -- the length of every other month is a number
    rcases hMonth with rfl | rfl | rfl | rfl | rfl | rfl | rfl | rfl | rfl | rfl | rfl | rfl <;>
      simp [monthLength] <;> omega

theorem dayNumber_ofMarchDay {y day : Int} (era : Int) (hYear : 0 ≤ y) (hYear' : y < 400) (hLow : 0 ≤ day)
    (hHigh : day ≤ 365) :
    (ofMarchDay (y + era * 400) day).dayNumber =
      era * 146097 + (y * 365 + y / 4 - y / 100 + day) - 719468 := by
  obtain ⟨m, hm⟩ : ∃ m, m = (5 * day + 2) / 153 := ⟨_, rfl⟩
  have hEra : (y + era * 400) / 400 = era := by omega
  have hRest : (y + era * 400) % 400 = y := by omega
  -- January and February end the year that began in March, so they belong to the next one
  by_cases hMonth : m < 10
  · have hLate : ¬ (m + 3).toNat ≤ 2 := by omega
    have hLate' : ¬ m + 3 ≤ 2 := by omega
    simp only [ofMarchDay, dayNumber, ← hm, hMonth, hLate, hLate', if_true, if_false, Int.add_zero, hEra, hRest]
    omega
  · have hEarly : (m - 9).toNat ≤ 2 := by omega
    have hEarly' : m - 9 ≤ 2 := by omega
    have hYear : y + era * 400 + 1 - 1 = y + era * 400 := by omega
    simp only [ofMarchDay, dayNumber, ← hm, hMonth, hEarly, hEarly', if_true, if_false, hYear, hEra, hRest]
    omega

theorem exists_era (n : Int) :
    ∃ era r c q a d : Int, InCycles r c q a d ∧ n = 146097 * era + r - 719468 := by
  obtain ⟨c, q, a, d, h⟩ := exists_inCycles (r := (n + 719468) % 146097) (by omega) (by omega)
  exact ⟨(n + 719468) / 146097, _, c, q, a, d, h, by omega⟩

theorem isValid_ofDayNumber (n : Int) : (ofDayNumber n).isValid = true := by
  obtain ⟨era, r, c, q, a, d, h, rfl⟩ := exists_era n
  rw [ofDayNumber_eq_ofMarchDay h]
  refine isValid_ofMarchDay h.day_ge h.day_le fun hDay => ?_
  obtain ⟨hYear, hFour⟩ := h.last hDay
  obtain ⟨hc, hc', hq, hq', -, -, -, -, -, -⟩ := h
  simp only [isLeapYear, Bool.and_eq_true, Bool.or_eq_true, decide_eq_true_eq]
  omega

@[simp] theorem dayNumber_ofDayNumber (n : Int) : (ofDayNumber n).dayNumber = n := by
  obtain ⟨era, r, c, q, a, d, h, rfl⟩ := exists_era n
  obtain ⟨hFour, hCentury⟩ := h.year_div
  rw [ofDayNumber_eq_ofMarchDay h, dayNumber_ofMarchDay era _ _ h.day_ge h.day_le, hFour, hCentury]
  · have := h.sum
    omega
  all_goals
    obtain ⟨hc, hc', hq, hq', ha, ha', -, -, -, -⟩ := h
    omega

end FieldRules.CivilDate
