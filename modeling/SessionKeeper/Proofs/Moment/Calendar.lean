import Mathlib.Tactic.Common
import SessionKeeper.Moment

/-!
# Moments on the calendar

Whatever a moment is read from, its date is one of the calendar and its time one of the day.

* `Moment.IsValid` : the fields of a moment lie where they should.
* `Moment.yearStart_le`, `Moment.lt_nextStart` : the days of a year within an era of 400 years.
* `Moment.isDate_ofDays` : the date at a number of days.
* `Moment.isValid_ofSeconds` : the moment at a number of seconds.
-/

namespace SessionKeeper.Moment

/-! ## Dates -/

/-- The month has that day. -/
structure IsDate (year month day : Nat) : Prop where
  month_pos : 1 ≤ month
  month_le : month ≤ 12
  day_pos : 1 ≤ day
  day_le : day ≤ daysIn year month

/-- A date of the calendar with a year of four digits, and a time of the day. -/
structure IsValid (m : Moment) : Prop where
  date : IsDate m.year m.month m.day
  year : m.year ≤ 9999
  hour : m.hour < 24
  minute : m.minute < 60
  second : m.second < 60
  micro : m.micro < 1000000
  offset : ∀ o, m.offset = some o → o.natAbs < 1440

theorem daysIn_le (year month : Nat) : daysIn 1 month ≤ daysIn year month := by
  have hcommon : isLeap 1 = false := by decide
  unfold daysIn
  split
  · rw [hcommon, if_neg Bool.false_ne_true]
    split_ifs
    · exact Nat.le_succ 28
    · exact Nat.le_refl 28
  all_goals exact Nat.le_refl _

theorem IsDate.of_common {month day : Nat} (h : IsDate 1 month day) (year : Nat) : IsDate year month day :=
  ⟨h.month_pos, h.month_le, h.day_pos, Nat.le_trans h.day_le (daysIn_le year month)⟩

theorem isDate_leapDay {year : Nat} (h : isLeap year = true) : IsDate year 2 29 := by
  have hdays : daysIn year 2 = 29 := by rw [daysIn, if_pos h]
  exact ⟨by decide, by decide, by decide, Nat.le_of_eq hdays.symm⟩

/-! ## Years of an era -/

/-- The days of an era up to a day, leap days left out. -/
def countedDays (day : Nat) : Nat := day - day / 1460 + day / 36524 - day / 146096

/-- The year of a day, both within an era; years begin in March. -/
def yearAt (day : Nat) : Nat := countedDays day / 365

/-- The first day of a year within an era. -/
def yearStart (year : Nat) : Nat := 365 * year + year / 4 - year / 100

def dayOfYear (day : Nat) : Nat := day - yearStart (yearAt day)

theorem countedDays_mono {d e : Nat} (h : d ≤ e) : countedDays d ≤ countedDays e := by
  have hfourth : d - d / 1460 ≤ e - e / 1460 := by omega
  have hcentury : d / 36524 - d / 146096 ≤ e / 36524 - e / 146096 := by omega
  have hbefore : d / 146096 ≤ d / 36524 := by omega
  have hafter : e / 146096 ≤ e / 36524 := by omega
  unfold countedDays
  omega

theorem countedDays_before {year : Nat} (hyear : year < 400) (hpos : 1 ≤ year) :
    countedDays (yearStart year - 1) < 365 * year := by
  have hall : ∀ y < 400, 1 ≤ y → countedDays (yearStart y - 1) < 365 * y := by decide +kernel
  exact hall year hyear hpos

/-- A year of 366 days has a last of February, and so has the last year of the era. -/
theorem isLeap_next {year : Nat} (hyear : year < 400)
    (hlong : year + 1 < 400 → yearStart year + 365 < yearStart (year + 1)) : isLeap (year + 1) = true := by
  have hall : ∀ y < 400, (y + 1 < 400 → yearStart y + 365 < yearStart (y + 1)) → isLeap (y + 1) = true := by
    decide +kernel
  exact hall year hyear hlong

theorem isLeap_add_era (year era : Nat) : isLeap (year + 400 * era) = isLeap year := by
  have hfour : (year + 400 * era) % 4 = year % 4 := by omega
  have hcentury : (year + 400 * era) % 100 = year % 100 := by omega
  have hera : (year + 400 * era) % 400 = year % 400 := by omega
  rw [isLeap, hfour, hcentury, hera, isLeap]

theorem le_countedDays {year : Nat} (hyear : year < 400) : 365 * year ≤ countedDays (yearStart year) := by
  have hall : ∀ y < 400, 365 * y ≤ countedDays (yearStart y) := by decide +kernel
  exact hall year hyear

theorem lt_nextStart {day : Nat} (hnext : yearAt day + 1 < 400) : day < yearStart (yearAt day + 1) := by
  by_contra hlate
  have hcounted : countedDays day < 365 * (yearAt day + 1) := Nat.lt_mul_div_succ _ (by decide)
  have hmono := countedDays_mono (Nat.le_of_not_lt hlate)
  have hstart := le_countedDays hnext
  omega

section

variable {day : Nat} (h : day < 146097)

include h

theorem yearAt_lt : yearAt day < 400 := by
  unfold yearAt countedDays
  omega

theorem yearStart_le : yearStart (yearAt day) ≤ day := by
  by_contra hlate
  rcases Nat.eq_zero_or_pos (yearAt day) with hzero | hpos
  · rw [hzero] at hlate
    exact hlate (Nat.zero_le day)
  · have hcounted : 365 * yearAt day ≤ countedDays day := Nat.mul_div_le _ _
    have hbefore := countedDays_before (yearAt_lt h) hpos
    have hmono : countedDays day ≤ countedDays (yearStart (yearAt day) - 1) := countedDays_mono (by omega)
    omega

theorem dayOfYear_le : dayOfYear day ≤ 365 := by
  have hyear := yearAt_lt h
  unfold dayOfYear
  by_cases hnext : yearAt day + 1 < 400
  · have hday := lt_nextStart hnext
    unfold yearStart at *
    omega
  · have hlast : yearAt day = 399 := by omega
    rw [hlast, yearStart]
    omega

theorem isLeap_of_dayOfYear (hlast : dayOfYear day = 365) : isLeap (yearAt day + 1) = true := by
  refine isLeap_next (yearAt_lt h) fun hnext => ?_
  have hday := lt_nextStart hnext
  have hstart := yearStart_le h
  unfold dayOfYear at hlast
  omega

end

/-! ## Days -/

/-- Months of a year that begins in March, counted from 0. -/
def shiftedMonth (day : Nat) : Nat := (5 * day + 2) / 153

def monthAt (day : Nat) : Nat := if shiftedMonth day < 10 then shiftedMonth day + 3 else shiftedMonth day - 9

def dayAt (day : Nat) : Nat := day - (153 * shiftedMonth day + 2) / 5 + 1

theorem isDate_at {day : Nat} (h : day < 365) : IsDate 1 (monthAt day) (dayAt day) := by
  have hall : ∀ d < 365, 1 ≤ monthAt d ∧ monthAt d ≤ 12 ∧ 1 ≤ dayAt d ∧ dayAt d ≤ daysIn 1 (monthAt d) := by
    decide +kernel
  obtain ⟨hmonth, hmonths, hday, hdays⟩ := hall day h
  exact ⟨hmonth, hmonths, hday, hdays⟩

theorem monthAt_le {day : Nat} (h : day ≤ 365) : monthAt day ≤ 2 ↔ 306 ≤ day := by
  unfold monthAt shiftedMonth
  split_ifs <;> omega

theorem ofDays_eq (n : Nat) :
    ofDays n = (yearAt (n % 146097) + n / 146097 * 400 + (if monthAt (dayOfYear (n % 146097)) ≤ 2 then 1 else 0) - 400,
      monthAt (dayOfYear (n % 146097)), dayAt (dayOfYear (n % 146097))) := rfl

theorem isDate_ofDays (n : Nat) : IsDate (ofDays n).1 (ofDays n).2.1 (ofDays n).2.2 := by
  have hday : n % 146097 < 146097 := Nat.mod_lt _ (by decide)
  rw [ofDays_eq]
  rcases Nat.lt_or_eq_of_le (dayOfYear_le hday) with hcommon | hlast
  · exact (isDate_at hcommon).of_common _
  · have hfebruary : monthAt 365 = 2 ∧ dayAt 365 = 29 := by decide
    rw [hlast, hfebruary.1, hfebruary.2, if_pos (Nat.le_refl 2)]
    apply isDate_leapDay
    have hleap := isLeap_of_dayOfYear hday hlast
    rcases Nat.eq_zero_or_pos (n / 146097) with hera | hera
    · -- the first era ends with the year 0
      have hyear : yearAt (n % 146097) + n / 146097 * 400 + 1 - 400 = 0 := by
        have hlt := yearAt_lt hday
        omega
      rw [hyear]
      decide
    · have hyear : yearAt (n % 146097) + n / 146097 * 400 + 1 - 400 =
          yearAt (n % 146097) + 1 + 400 * (n / 146097 - 1) := by omega
      rw [hyear, isLeap_add_era, hleap]

theorem year_ofDays_le {n : Nat} (h : n ≤ 3798461) : (ofDays n).1 ≤ 9999 := by
  have hday : n % 146097 < 146097 := Nat.mod_lt _ (by decide)
  have hyear := yearAt_lt hday
  rw [ofDays_eq]
  dsimp only
  split_ifs with hmonth
  · rw [monthAt_le (dayOfYear_le hday)] at hmonth
    by_contra hlate
    have hlast : yearAt (n % 146097) = 399 := by omega
    rw [dayOfYear, hlast, yearStart] at hmonth
    omega
  · omega

/-! ## Seconds -/

theorem isValid_ofSeconds {seconds : Int} {micro : Nat} {m : Moment} (h : ofSeconds? seconds micro = some m) :
    m.IsValid := by
  unfold ofSeconds? at h
  dsimp only at h
  split_ifs at h with hrange
  simp only [Bool.or_eq_true, decide_eq_true_eq, not_or, Int.not_lt] at hrange
  obtain ⟨hleast, hgreatest⟩ := hrange
  generalize seconds + (micro / 1000000 : Nat) = total at h hleast hgreatest
  have hdays : (total.fdiv 86400 + daysTo1970).toNat ≤ 3798461 := by
    rw [Int.fdiv_eq_ediv_of_nonneg total (by decide)]
    unfold greatestSecond daysTo1970 at *
    omega
  have hrest : (total.fmod 86400).toNat < 86400 := by
    rw [Int.fmod_eq_emod_of_nonneg total (by decide)]
    omega
  obtain rfl := Option.some.inj h
  exact {
    date := isDate_ofDays _
    year := year_ofDays_le hdays
    hour := by dsimp only; omega
    minute := Nat.mod_lt _ (by decide)
    second := Nat.mod_lt _ (by decide)
    micro := Nat.mod_lt _ (by decide)
    offset := by rintro o ⟨⟩; decide }

end SessionKeeper.Moment
