import JobNode.Instant.Basic

/-!
# The calendar and its day numbers

Every day number has a date, and the date gives the number back.  A day is looked for in an era of
400 years that begin in March: first its year, then its month, each by one division, so what has to
be shown is that neither division is off by one at the end of a year or a century.

* `dayNumber_ofDayNumber`: the date of a day lies on that day;
* `valid_ofDayNumber`: the date of a day exists;
* `year_of_dayNumber`: the days of all instants lie in the years that have dates.
-/

namespace JobNode.Date

/-- The days before a year of an era, in years that begin in March. -/
def daysBefore (year : Int) : Int := 365 * year + year / 4 - year / 100

/-- The date of a day of a year that begins in March. -/
def ofMarch (year day : Int) : Date :=
  let month := (5 * day + 2) / 153
  let civil := if month < 10 then month + 3 else month - 9
  ⟨if civil ≤ 2 then year + 1 else year, civil.toNat, (day - (153 * month + 2) / 5 + 1).toNat⟩

/-- The year of a day of an era. -/
def yearOfEra (day : Int) : Int := (day - day / 1460 + day / 36524 - day / 146096) / 365

theorem ofDayNumber_eq (n : Int) :
    ofDayNumber n =
      let era := (n + epochOffset) / daysPerEra
      let day := (n + epochOffset) % daysPerEra
      ofMarch (yearOfEra day + era * 400) (day - daysBefore (yearOfEra day)) := rfl

/-- The year of a day is found without a search: the day lies in it, and is the last of a leap year
if it has a number that other years do not have. -/
theorem yearOfEra_spec {day : Int} (first : 0 ≤ day) (last : day < 146097) :
    0 ≤ yearOfEra day ∧ yearOfEra day ≤ 399 ∧ 0 ≤ day - daysBefore (yearOfEra day) ∧
      day - daysBefore (yearOfEra day) ≤ 365 ∧
      (day - daysBefore (yearOfEra day) = 365 →
        yearOfEra day % 4 = 3 ∧ (yearOfEra day % 100 ≠ 99 ∨ yearOfEra day = 399)) := by
  generalize eq : yearOfEra day = year
  unfold yearOfEra at eq
  unfold daysBefore
  -- the corrections depend on the century, of which there are four and the last day of the era
  have century : year / 100 = day / 36524 ∨ day = 146096 ∧ year = 399 := by omega
  rcases century with same | ⟨rfl, rfl⟩
  · have few : day / 36524 = 0 ∨ day / 36524 = 1 ∨ day / 36524 = 2 ∨ day / 36524 = 3 := by omega
    have whole : day / 146096 = 0 := by omega
    refine ⟨by omega, by omega, by omega, by omega, fun late => ?_⟩
    have : ¬ year % 4 ≤ 2 := by
      intro short
      have : day / 1460 = year / 4 := by omega
      omega
    omega
  · decide

theorem dayNumber_ofMarch {year day : Int} (first : 0 ≤ day) (last : day ≤ 365) :
    (ofMarch year day).dayNumber =
      year / 400 * daysPerEra + daysBefore (year % 400) + day - epochOffset := by
  unfold dayNumber ofMarch daysBefore
  have months : 0 ≤ (5 * day + 2) / 153 ∧ (5 * day + 2) / 153 ≤ 11 := by omega
  generalize eq : (5 * day + 2) / 153 = month at months
  dsimp only
  by_cases early : month < 10
  · simp only [early, if_true]
    have : ¬ month + 3 ≤ 2 := by omega
    have : ¬ (month + 3).toNat ≤ 2 := by omega
    simp only [*, if_false]
    omega
  · simp only [early, if_false]
    have : month - 9 ≤ 2 := by omega
    have : (month - 9).toNat ≤ 2 := by omega
    simp only [*, if_true]
    have : year + 1 - 1 = year := by omega
    rw [this]
    omega

theorem valid_ofMarch {year day : Int} (first : 0 ≤ day) (last : day ≤ 365)
    (leap : day = 365 → isLeapYear (year + 1) = true) : (ofMarch year day).Valid := by
  unfold Valid ofMarch
  have low : 0 ≤ (5 * day + 2) / 153 := by omega
  have high : (5 * day + 2) / 153 ≤ 11 := by omega
  generalize eq : (5 * day + 2) / 153 = month at low high
  have months : month = 0 ∨ month = 1 ∨ month = 2 ∨ month = 3 ∨ month = 4 ∨ month = 5 ∨ month = 6 ∨
    month = 7 ∨ month = 8 ∨ month = 9 ∨ month = 10 ∨ month = 11 := by omega
  refine ⟨by dsimp only; omega, ?_⟩
  rcases months with rfl | rfl | rfl | rfl | rfl | rfl | rfl | rfl | rfl | rfl | rfl | rfl
  case inr.inr.inr.inr.inr.inr.inr.inr.inr.inr.inr =>
    by_cases long : isLeapYear (year + 1) = true
    · simp [daysInMonth, long]
      omega
    · have : day ≠ 365 := fun eq => long (leap eq)
      simp [daysInMonth, long]
      omega
  all_goals
    simp [daysInMonth]
    omega

/-- The date of a day lies on that day. -/
theorem dayNumber_ofDayNumber (n : Int) : (ofDayNumber n).dayNumber = n := by
  rw [ofDayNumber_eq]
  dsimp only
  have first : 0 ≤ (n + epochOffset) % daysPerEra := Int.emod_nonneg _ (by decide)
  have last : (n + epochOffset) % daysPerEra < 146097 := Int.emod_lt_of_pos _ (by decide)
  obtain ⟨low, high, early, late, -⟩ := yearOfEra_spec first last
  have whole := Int.mul_ediv_add_emod (n + epochOffset) daysPerEra
  generalize (n + epochOffset) % daysPerEra = day at *
  generalize (n + epochOffset) / daysPerEra = era at *
  rw [dayNumber_ofMarch early late]
  have quotient : (yearOfEra day + era * 400) / 400 = era := by omega
  have remainder : (yearOfEra day + era * 400) % 400 = yearOfEra day := by omega
  rw [quotient, remainder]
  simp only [daysPerEra, epochOffset] at *
  omega

/-- The date of a day exists. -/
theorem valid_ofDayNumber (n : Int) : (ofDayNumber n).Valid := by
  rw [ofDayNumber_eq]
  dsimp only
  have first : 0 ≤ (n + epochOffset) % daysPerEra := Int.emod_nonneg _ (by decide)
  have last : (n + epochOffset) % daysPerEra < 146097 := Int.emod_lt_of_pos _ (by decide)
  obtain ⟨-, -, early, late, leap⟩ := yearOfEra_spec first last
  refine valid_ofMarch early late fun full => ?_
  have ⟨fourth, century⟩ := leap full
  simp only [isLeapYear, Bool.and_eq_true, Bool.or_eq_true, beq_iff_eq, bne_iff_ne]
  omega

theorem daysInMonth_le (year : Int) (month : Nat) : daysInMonth year month ≤ 31 := by
  fun_cases daysInMonth year month <;> simp

theorem month_of_valid {d : Date} (valid : d.Valid) : 1 ≤ d.month ∧ d.month ≤ 12 := by
  have days : daysInMonth d.year d.month ≠ 0 := by
    have ⟨first, last⟩ := valid
    omega
  generalize d.month = month at days
  fun_cases daysInMonth d.year month <;> simp_all [daysInMonth]

/-- A day of a year that begins in March tells the year from below and from above. -/
theorem year_of_day (year day : Int) {n : Int}
    (eq : year / 400 * daysPerEra + (daysBefore (year % 400) + day) - epochOffset = n) (first : 0 ≤ day)
    (last : day < 400) (low : -96465292 ≤ n) (high : n ≤ 95026236) :
    (-262144 < year ∨ year = -262144 ∧ 306 ≤ day) ∧
      (year < 262142 ∨ year = 262142 ∧ day < 306) := by
  simp only [daysBefore, daysPerEra, epochOffset] at eq
  have split : year = 400 * (year / 400) + year % 400 := by omega
  have rest : 0 ≤ year % 400 ∧ year % 400 < 400 := by omega
  generalize year / 400 = era at *
  generalize year % 400 = within at *
  have eras : -656 ≤ era ∧ era ≤ 655 := by omega
  refine ⟨?_, ?_⟩
  · -- the first year of the calendar is year 256 of its era
    by_cases first : era = -656
    · subst first
      omega
    · omega
  · by_cases last : era = 655
    · subst last
      omega
    · omega

/-- The days of the instants lie in the years that have dates. -/
theorem year_of_dayNumber {d : Date} (valid : d.Valid) (low : -96465292 ≤ d.dayNumber)
    (high : d.dayNumber ≤ 95026236) : -262143 ≤ d.year ∧ d.year ≤ 262142 := by
  have ⟨first, last⟩ := month_of_valid valid
  have ⟨one, fits⟩ := valid
  have days := daysInMonth_le d.year d.month
  by_cases early : d.month ≤ 2
  · have := year_of_day (d.year - 1) ((153 * ((d.month : Int) + 9) + 2) / 5 + d.day - 1)
      (by simp [dayNumber, early, daysBefore]) (by omega) (by omega) low high
    omega
  · have := year_of_day d.year ((153 * ((d.month : Int) - 3) + 2) / 5 + d.day - 1)
      (by simp [dayNumber, early, daysBefore]) (by omega) (by omega) low high
    omega

end JobNode.Date
