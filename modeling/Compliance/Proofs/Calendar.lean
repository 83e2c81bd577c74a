import Compliance.Calendar

/-!
# Compliance.Proofs.Calendar

Dates and days stand for each other.

* `yearOfDay`       — the year that holds a day of an era; it is found by one division.
* `toDays_ofDays`   — every day is the day of its date.
* `isValid_ofDays`  — the date of a day is in the calendar.
* `ofDays_toDays`   — every date in the calendar is the date of its day.
* `natAbs_year_ofDays_le_iff` — the days of the years with at most four digits.
-/

namespace Compliance.CivilDate

/-! ## Years of an era -/

/-- The year of an era that holds a day, both counted from the start of the era. -/
def yearOfDay (day : Int) : Int :=
  (day - day / 1460 + day / 36524 - day / 146096) / 365

/-- The days of an era in front of a year. -/
def yearStart (year : Int) : Int := year * 365 + year / 4 - year / 100

/-- The days of a year that ends with February. -/
def yearLength (year : Int) : Int := if isLeapYear (year + 1) then 366 else 365

theorem yearOfDay_mono {a b : Int} (h : a ≤ b) : yearOfDay a ≤ yearOfDay b := by
  have step (n : Int) : n - n / 1460 + n / 36524 - n / 146096 ≤
      n + 1 - (n + 1) / 1460 + (n + 1) / 36524 - (n + 1) / 146096 := by omega
  have steps (k : Nat) (n : Int) : n - n / 1460 + n / 36524 - n / 146096 ≤
      n + k - (n + k) / 1460 + (n + k) / 36524 - (n + k) / 146096 := by
    induction k with
    | zero => simp
    | succ k ih =>
      have hstep := step (n + k)
      rw [show n + ((k + 1 : Nat) : Int) = n + k + 1 by omega]
      omega
  have hsteps := steps (b - a).toNat a
  rw [show a + ((b - a).toNat : Int) = b by omega] at hsteps
  exact Int.ediv_le_ediv (by decide) hsteps

/-- Every year of an era holds its first and its last day, and the next one begins behind it. -/
theorem yearOfDay_ends : ∀ y : Nat, y < 400 →
    yearOfDay (yearStart y) = y ∧ yearOfDay (yearStart y + yearLength y - 1) = y ∧
      (y < 399 → yearStart (y + 1) = yearStart y + yearLength y) := by
  decide +kernel

theorem yearOfDay_range {day : Int} (h : 0 ≤ day) (h' : day < daysPerEra) :
    0 ≤ yearOfDay day ∧ yearOfDay day < 400 := by
  simp only [daysPerEra] at h'
  simp only [yearOfDay]
  omega

/-- A day lies between the first and the last day of its year. -/
theorem yearStart_le_day {day : Int} (h : 0 ≤ day) (h' : day < daysPerEra) :
    yearStart (yearOfDay day) ≤ day ∧
      day < yearStart (yearOfDay day) + yearLength (yearOfDay day) := by
  obtain ⟨hlow, hhigh⟩ := yearOfDay_range h h'
  obtain ⟨y, hy⟩ := Int.eq_ofNat_of_zero_le hlow
  rw [hy] at hhigh ⊢
  obtain ⟨-, -, hnext⟩ := yearOfDay_ends y (by omega)
  constructor
  · refine Int.not_lt.1 fun hlt => ?_
    cases y with
    | zero => simp [yearStart] at hlt; omega
    | succ z =>
      -- a day in front of the year is no later than the last day of the year before
      obtain ⟨-, hlast, hstart⟩ := yearOfDay_ends z (by omega)
      have hle := yearOfDay_mono (show day ≤ yearStart z + yearLength z - 1 by
        have hz := hstart (by omega)
        rw [Int.natCast_succ] at hlt
        omega)
      omega
  · refine Int.not_le.1 fun hge => ?_
    by_cases hlast : y < 399
    · obtain ⟨hfirst, -, -⟩ := yearOfDay_ends (y + 1) (by omega)
      have hle := yearOfDay_mono (show yearStart ((y + 1 : Nat) : Int) ≤ day by
        rw [Int.natCast_succ, hnext hlast]
        exact hge)
      omega
    · have hy : y = 399 := by omega
      subst hy
      simp [yearStart, yearLength, isLeapYear, daysPerEra] at hge h'
      omega

/-- Only the year that holds a day has it between its ends. -/
theorem yearOfDay_eq {year day : Int} (hlow : 0 ≤ year) (hhigh : year < 400)
    (h : yearStart year ≤ day) (h' : day < yearStart year + yearLength year) :
    yearOfDay day = year := by
  obtain ⟨y, rfl⟩ := Int.eq_ofNat_of_zero_le hlow
  obtain ⟨hfirst, hlast, -⟩ := yearOfDay_ends y (by omega)
  have hle := yearOfDay_mono h
  have hge := yearOfDay_mono (show day ≤ yearStart y + yearLength y - 1 by omega)
  omega

/-! ## Dates -/

/-- The date of a day, with the parts that it is made of: the era, the year of the era, and the
day of a year that begins with March. -/
theorem ofDays_parts (days : Int) :
    ∃ era year day : Int, 0 ≤ year ∧ year < 400 ∧ 0 ≤ day ∧ day < yearLength year ∧
      days + epochShift = era * daysPerEra + (yearStart year + day) ∧
      ofDays days =
        if (5 * day + 2) / 153 < 10 then
          ⟨year + era * 400, ((5 * day + 2) / 153 + 3).toNat,
            (day - (153 * ((5 * day + 2) / 153) + 2) / 5 + 1).toNat⟩
        else
          ⟨year + era * 400 + 1, ((5 * day + 2) / 153 - 9).toNat,
            (day - (153 * ((5 * day + 2) / 153) + 2) / 5 + 1).toNat⟩ := by
  have hpos : (0 : Int) < daysPerEra := by decide
  have hlow := Int.emod_nonneg (days + epochShift) (Int.ne_of_gt hpos)
  have hhigh := Int.emod_lt_of_pos (days + epochShift) hpos
  have hera := Int.emod_add_mul_ediv (days + epochShift) daysPerEra
  obtain ⟨hy, hy'⟩ := yearOfDay_range hlow hhigh
  obtain ⟨hd, hd'⟩ := yearStart_le_day hlow hhigh
  refine ⟨(days + epochShift) / daysPerEra, yearOfDay ((days + epochShift) % daysPerEra),
    (days + epochShift) % daysPerEra - yearStart (yearOfDay ((days + epochShift) % daysPerEra)),
    hy, hy', by omega, by omega, ?_, ?_⟩
  · rw [Int.mul_comm]
    omega
  · rw [yearStart, Int.mul_comm (yearOfDay _) 365]
    rfl

theorem isLeapYear_add_era (year era : Int) : isLeapYear (year + era * 400) = isLeapYear year := by
  have h4 : (year + era * 400) % 4 = year % 4 := by omega
  have h100 : (year + era * 400) % 100 = year % 100 := by omega
  have h400 : (year + era * 400) % 400 = year % 400 := by omega
  rw [isLeapYear, isLeapYear, h4, h100, h400]

theorem yearLength_le (year : Int) : yearLength year ≤ 366 := by
  rw [yearLength]
  split <;> decide

/-- The day of an era of a date that is told by its year from March on. -/
theorem toDays_of_parts {era year month day : Int} (hy : 0 ≤ year) (hy' : year < 400)
    (hm : 0 ≤ month) (hm' : month < 12) (hd : 0 ≤ day) :
    toDays (if month < 10 then ⟨year + era * 400, (month + 3).toNat, (day + 1).toNat⟩
      else ⟨year + era * 400 + 1, (month - 9).toNat, (day + 1).toNat⟩) =
      era * daysPerEra + (yearStart year + ((153 * month + 2) / 5 + day)) - epochShift := by
  have hdiv : (year + era * 400) / 400 = era := by omega
  have hmod : (year + era * 400) % 400 = year := by omega
  split
  · have hgt : ¬ (month + 3).toNat ≤ 2 := by omega
    have hmonth : (((month + 3).toNat : Nat) : Int) - 3 = month := by omega
    have hday : (((day + 1).toNat : Nat) : Int) - 1 = day := by omega
    simp only [toDays, if_neg hgt, hdiv, hmod, hmonth, hday, yearStart]
  · have hle : (month - 9).toNat ≤ 2 := by omega
    have hmonth : (((month - 9).toNat : Nat) : Int) + 9 = month := by omega
    have hday : (((day + 1).toNat : Nat) : Int) - 1 = day := by omega
    simp only [toDays, if_pos hle, Int.add_sub_cancel, hdiv, hmod, hmonth, hday, yearStart]

/-- Every day is the day of its date. -/
theorem toDays_ofDays (days : Int) : toDays (ofDays days) = days := by
  obtain ⟨era, year, day, hy, hy', hd, hd', hdays, hdate⟩ := ofDays_parts days
  have hlen := yearLength_le year
  rw [hdate, toDays_of_parts hy hy' (by omega) (by omega) (by omega)]
  omega

/-- The lengths of the months of a year that begins with March. -/
def marchMonthLength (year month : Int) : Int :=
  if month = 11 then yearLength year - 337
  else (153 * (month + 1) + 2) / 5 - (153 * month + 2) / 5

theorem monthLength_march (era : Int) {year month : Int} (hm : 0 ≤ month) (hm' : month < 12) :
    (if month < 10 then (monthLength (year + era * 400) (month + 3).toNat : Int)
      else monthLength (year + era * 400 + 1) (month - 9).toNat) = marchMonthLength year month := by
  have hleap : isLeapYear (year + era * 400 + 1) = isLeapYear (year + 1) := by
    rw [show year + era * 400 + 1 = year + 1 + era * 400 by omega, isLeapYear_add_era]
  obtain ⟨m, rfl⟩ := Int.eq_ofNat_of_zero_le hm
  have hm : m < 12 := by omega
  have cases : m = 0 ∨ m = 1 ∨ m = 2 ∨ m = 3 ∨ m = 4 ∨ m = 5 ∨ m = 6 ∨ m = 7 ∨ m = 8 ∨ m = 9 ∨
      m = 10 ∨ m = 11 := by omega
  rcases cases with rfl | rfl | rfl | rfl | rfl | rfl | rfl | rfl | rfl | rfl | rfl | rfl
  case inr.inr.inr.inr.inr.inr.inr.inr.inr.inr.inr =>
    show ((monthLength (year + era * 400 + 1) 2 : Nat) : Int) = yearLength year - 337
    rw [monthLength, yearLength, hleap]
    cases isLeapYear (year + 1) <;> rfl
  all_goals rfl

/-- A day of a year that begins with March is a day of one of its months. -/
theorem day_lt_marchMonthLength {year day : Int} (hd : day < yearLength year) :
    day - (153 * ((5 * day + 2) / 153) + 2) / 5 < marchMonthLength year ((5 * day + 2) / 153) := by
  have hlen := yearLength_le year
  rw [marchMonthLength]
  split <;> omega

theorem isValid_iff (d : CivilDate) :
    d.isValid = true ↔
      1 ≤ d.month ∧ d.month ≤ 12 ∧ 1 ≤ d.day ∧ d.day ≤ monthLength d.year d.month := by
  simp only [isValid, Bool.and_eq_true, decide_eq_true_eq, and_assoc]

theorem monthLength_le (year : Int) (month : Nat) : monthLength year month ≤ 31 := by
  rw [monthLength]
  split
  · split <;> decide
  · split <;> decide

/-- The date of every day is in the calendar. -/
theorem isValid_ofDays (days : Int) : (ofDays days).isValid = true := by
  obtain ⟨era, year, day, hy, hy', hd, hd', -, hdate⟩ := ofDays_parts days
  have hlen := yearLength_le year
  have hlast := day_lt_marchMonthLength hd'
  rw [← monthLength_march era (by omega) (by omega)] at hlast
  rw [hdate, isValid_iff]
  split at hlast
  · rename_i hm
    rw [if_pos hm]
    simp only
    omega
  · rename_i hm
    rw [if_neg hm]
    simp only
    omega

/-- A date in the calendar, told by its year from March on. -/
theorem exists_parts {d : CivilDate} (h : d.isValid = true) :
    ∃ era year month day : Int, 0 ≤ year ∧ year < 400 ∧ 0 ≤ month ∧ month < 12 ∧ 0 ≤ day ∧
      day < marchMonthLength year month ∧
      d = if month < 10 then ⟨year + era * 400, (month + 3).toNat, (day + 1).toNat⟩
        else ⟨year + era * 400 + 1, (month - 9).toNat, (day + 1).toNat⟩ := by
  obtain ⟨y, m, n⟩ := d
  obtain ⟨hm, hm', hn, hn'⟩ := (isValid_iff _).1 h
  simp only at hm hm' hn hn'
  by_cases hle : m ≤ 2
  · have hlen : (monthLength ((y - 1) % 400 + (y - 1) / 400 * 400 + 1) m : Int) =
        marchMonthLength ((y - 1) % 400) (m + 9) := by
      rw [← monthLength_march ((y - 1) / 400) (by omega) (by omega), if_neg (by omega)]
      simp
    rw [show (y - 1) % 400 + (y - 1) / 400 * 400 + 1 = y by omega] at hlen
    refine ⟨(y - 1) / 400, (y - 1) % 400, m + 9, n - 1, by omega, by omega, by omega, by omega,
      by omega, by omega, ?_⟩
    rw [if_neg (by omega)]
    congr 1 <;> omega
  · have hlen : (monthLength (y % 400 + y / 400 * 400) m : Int) =
        marchMonthLength (y % 400) (m - 3) := by
      rw [← monthLength_march (y / 400) (by omega) (by omega), if_pos (by omega)]
      simp
    rw [show y % 400 + y / 400 * 400 = y by omega] at hlen
    refine ⟨y / 400, y % 400, m - 3, n - 1, by omega, by omega, by omega, by omega,
      by omega, by omega, ?_⟩
    rw [if_pos (by omega)]
    congr 1 <;> omega

/-- The days of two years overlap only where the years and the days are the same. -/
theorem parts_unique {era era' year year' day day' : Int} (hy : 0 ≤ year) (hy' : year < 400)
    (hd : 0 ≤ day) (hd' : day < yearLength year) (hz : 0 ≤ year') (hz' : year' < 400)
    (he : 0 ≤ day') (he' : day' < yearLength year')
    (h : era * daysPerEra + (yearStart year + day) =
      era' * daysPerEra + (yearStart year' + day')) :
    era = era' ∧ year = year' ∧ day = day' := by
  have hlen := yearLength_le year
  have hlen' := yearLength_le year'
  have hera : era = era' ∧ yearStart year + day = yearStart year' + day' := by
    simp only [daysPerEra, yearStart] at h ⊢
    omega
  obtain ⟨rfl, hday⟩ := hera
  have hyear : yearOfDay (yearStart year + day) = year := yearOfDay_eq hy hy' (by omega) (by omega)
  rw [hday, yearOfDay_eq hz hz' (by omega) (by omega)] at hyear
  subst hyear
  exact ⟨rfl, rfl, by omega⟩

/-- Every date in the calendar is the date of its day. -/
theorem ofDays_toDays {d : CivilDate} (h : d.isValid = true) : ofDays d.toDays = d := by
  obtain ⟨era, year, month, day, hy, hy', hm, hm', hd, hd', rfl⟩ := exists_parts h
  rw [toDays_of_parts hy hy' hm hm' hd]
  have hlen := yearLength_le year
  obtain ⟨era', year', dayOfYear, hz, hz', he, he', hdays, hdate⟩ := ofDays_parts
    (era * daysPerEra + (yearStart year + ((153 * month + 2) / 5 + day)) - epochShift)
  have hmonth : (5 * ((153 * month + 2) / 5 + day) + 2) / 153 = month ∧
      (153 * month + 2) / 5 + day < yearLength year := by
    rw [marchMonthLength] at hd'
    split at hd'
    · subst month
      omega
    · have hlow : 365 ≤ yearLength year := by rw [yearLength]; split <;> decide
      omega
  obtain ⟨hmonth, hlast⟩ := hmonth
  have heq : era * daysPerEra + (yearStart year + ((153 * month + 2) / 5 + day)) =
      era' * daysPerEra + (yearStart year' + dayOfYear) := by omega
  obtain ⟨rfl, rfl, rfl⟩ := parts_unique hy hy' (by omega) hlast hz hz' he he' heq
  rw [hdate, hmonth, show (153 * month + 2) / 5 + day - (153 * month + 2) / 5 = day by omega]

/-- The days from the first one of the year -9999 to the last one of the year 9999. -/
theorem natAbs_year_ofDays_le_iff (days : Int) :
    (ofDays days).year.natAbs ≤ 9999 ↔ -4371587 ≤ days ∧ days ≤ 2932896 := by
  obtain ⟨era, year, day, hy, hy', hd, hd', hdays, hdate⟩ := ofDays_parts days
  have hlen := yearLength_le year
  simp only [epochShift, daysPerEra, yearStart] at hdays
  -- from January on the year is the one behind the year that began in March
  by_cases hmarch : (5 * day + 2) / 153 < 10
  · rw [hdate, if_pos hmarch]
    simp only
    omega
  · rw [hdate, if_neg hmarch]
    simp only
    omega

end Compliance.CivilDate
